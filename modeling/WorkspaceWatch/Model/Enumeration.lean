/-
**The closed sets of words on the wire.**

Three fields of the daemon's data hold one word of a fixed list: the kind of a status, the state
of a task, and who works on it.

Main definitions:

* `WorkspaceWatch.StatusKind`, `WorkspaceWatch.TaskStatus`, `WorkspaceWatch.AgentType`: the words;
* `WorkspaceWatch.Enumeration`: the three lists, with `Enumeration.find?` to read a word.

Main results:

* `WorkspaceWatch.Enumeration.find?_text`: every member is read back from its word.
-/

set_option autoImplicit false

namespace WorkspaceWatch

/-- What a status check found: the daemon gave no usable answer, or a workspace is bound to the
project, or none is. -/
inductive StatusKind where
  | daemonUnavailable
  | workspaceFound
  | noWorkspace
deriving DecidableEq, Repr

/-- How far a task has come. -/
inductive TaskStatus where
  | drafting
  | toDo
  | blocked
  | inProgress
  | complete
  | canceled
  | failed
deriving DecidableEq, Repr

/-- Who works on a task: a person, a language model, or nobody. -/
inductive AgentType where
  | human
  | llm
  | none
deriving DecidableEq, Repr

namespace StatusKind

/-- The members in order. -/
def all : List StatusKind := [daemonUnavailable, workspaceFound, noWorkspace]

/-- The word on the wire. -/
def text : StatusKind → String
  | daemonUnavailable => "daemon_unavailable"
  | workspaceFound => "workspace_found"
  | noWorkspace => "no_workspace"

/-- The member's own name. -/
def label : StatusKind → String
  | daemonUnavailable => "DAEMON_UNAVAILABLE"
  | workspaceFound => "WORKSPACE_FOUND"
  | noWorkspace => "NO_WORKSPACE"

end StatusKind

namespace TaskStatus

/-- The members in order. -/
def all : List TaskStatus := [drafting, toDo, blocked, inProgress, complete, canceled, failed]

/-- The word on the wire. -/
def text : TaskStatus → String
  | drafting => "drafting"
  | toDo => "to_do"
  | blocked => "blocked"
  | inProgress => "in_progress"
  | complete => "complete"
  | canceled => "canceled"
  | failed => "failed"

/-- The member's own name. -/
def label : TaskStatus → String
  | drafting => "DRAFTING"
  | toDo => "TO_DO"
  | blocked => "BLOCKED"
  | inProgress => "IN_PROGRESS"
  | complete => "COMPLETE"
  | canceled => "CANCELED"
  | failed => "FAILED"

end TaskStatus

namespace AgentType

/-- The members in order. -/
def all : List AgentType := [human, llm, none]

/-- The word on the wire. -/
def text : AgentType → String
  | human => "human"
  | llm => "llm"
  | none => "none"

/-- The member's own name. -/
def label : AgentType → String
  | human => "HUMAN"
  | llm => "LLM"
  | none => "NONE"

end AgentType

/-- The three lists of words. -/
inductive Enumeration where
  | statusKind
  | taskStatus
  | agentType
deriving DecidableEq, Repr

namespace Enumeration

/-- The members of a list of words. -/
def Member : Enumeration → Type
  | statusKind => StatusKind
  | taskStatus => TaskStatus
  | agentType => AgentType

instance : (e : Enumeration) → DecidableEq e.Member
  | statusKind => inferInstanceAs (DecidableEq StatusKind)
  | taskStatus => inferInstanceAs (DecidableEq TaskStatus)
  | agentType => inferInstanceAs (DecidableEq AgentType)

/-- The list's name in messages. -/
def title : Enumeration → String
  | statusKind => "StatusKind"
  | taskStatus => "TaskStatus"
  | agentType => "AgentType"

/-- The members in order. -/
def all : (e : Enumeration) → List e.Member
  | statusKind => StatusKind.all
  | taskStatus => TaskStatus.all
  | agentType => AgentType.all

/-- The word of a member. -/
def text : (e : Enumeration) → e.Member → String
  | statusKind => StatusKind.text
  | taskStatus => TaskStatus.text
  | agentType => AgentType.text

/-- The name of a member. -/
def label : (e : Enumeration) → e.Member → String
  | statusKind => StatusKind.label
  | taskStatus => TaskStatus.label
  | agentType => AgentType.label

/-- The member with a given word. -/
def find? (e : Enumeration) (word : String) : Option e.Member :=
  e.all.find? fun m => e.text m == word

/-- The list with a given name. -/
def named? : String → Option Enumeration
  | "StatusKind" => some statusKind
  | "TaskStatus" => some taskStatus
  | "AgentType" => some agentType
  | _ => none

/-- Every member is read back from its word. -/
theorem find?_text (e : Enumeration) (m : e.Member) : e.find? (e.text m) = some m := by
  cases e <;> cases m <;> rfl

/-- What is read is a member with the given word. -/
theorem text_of_find? {e : Enumeration} {word : String} {m : e.Member}
    (h : e.find? word = some m) : e.text m = word := by
  simpa using List.find?_some h

/-- The words of the list, in quotes, the last one after "or". -/
def expectation (e : Enumeration) : String :=
  match (e.all.map fun m => "'" ++ e.text m ++ "'").reverse with
  | [] => ""
  | [word] => word
  | last :: rest => ", ".intercalate rest.reverse ++ " or " ++ last

end Enumeration

end WorkspaceWatch
