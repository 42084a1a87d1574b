/-
**Replies with or without an envelope.**

The daemon answers the creation of a workspace, and each request about one task, with the object
under a key of its own.  An older daemon sends the object bare.  A reply that can be read both
ways is taken for the one that uses more of its keys, and for the envelope if both use the same
number.

Main definitions:

* `WorkspaceWatch.Reply`: the two kinds of reply;
* `WorkspaceWatch.Reply.read`: the object in a reply, or the issues of both ways to read it;
* `WorkspaceWatch.Sent`: the object, with the form it was sent in.
-/

import WorkspaceWatch.Model.Basic

set_option autoImplicit false

namespace WorkspaceWatch

/-- What the replies are about that may come with or without an envelope. -/
inductive Reply where
  | workspace
  | task
deriving DecidableEq, Repr

/-- An object in a reply, which came under its key or bare. -/
inductive Sent (s : Sheet) where
  | enveloped (entry : Entry s)
  | bare (entry : Entry s)

/-- The object that was sent. -/
def Sent.entry {s : Sheet} : Sent s → Entry s
  | enveloped e => e
  | bare e => e

namespace Reply

/-- The sheet of the object. -/
def sheet : Reply → Sheet
  | workspace => .workspace
  | task => .task

/-- The key of the envelope. -/
def key : Reply → String
  | workspace => "workspace"
  | task => "task"

/-- The envelope as a body. -/
def envelope : Reply → Model
  | workspace => .workspaceEnvelope
  | task => .taskEnvelope

/-- The title in messages. -/
def title (r : Reply) : String :=
  "union[" ++ r.envelope.title ++ "," ++ r.sheet.title ++ "]"

/-- The object under its key, or every issue. -/
def readEnvelope (r : Reply) : Json → Checked (Entry r.sheet)
  | .object entries => Shape.required entries r.key (Entry.read r.sheet)
  | _ => .error [⟨[], .notObject r.envelope.title⟩]

/-- The object in a reply, or the issues of both ways to read it. -/
def read (r : Reply) (v : Json) : Checked (Sent r.sheet) :=
  match r.readEnvelope v, Entry.read r.sheet v with
  | .ok wrapped, .ok bare =>
    if 1 + wrapped.row.givenCount < bare.row.givenCount then .ok (.bare bare)
    else .ok (.enveloped wrapped)
  | .ok wrapped, .error _ => .ok (.enveloped wrapped)
  | .error _, .ok bare => .ok (.bare bare)
  | .error xs, .error ys =>
    .error (xs.map (·.within (.key r.envelope.title)) ++ ys.map (·.within (.key r.sheet.title)))

/-- The object of a JSON value in memory. -/
def ofJson (r : Reply) (v : Json) : Except Rejection (Sent r.sheet) :=
  (r.read v).mapError (⟨r.title, .value, ·⟩)

/-- The object of a body. -/
def decode (r : Reply) (bytes : ByteArray) : Except Rejection (Sent r.sheet) :=
  match Json.decode? bytes with
  | some v => (r.read v).mapError (⟨r.title, .text, ·⟩)
  | none => .error ⟨r.title, .text, [⟨[], .notJson⟩]⟩

end Reply

end WorkspaceWatch
