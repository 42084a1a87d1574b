/-
**The bodies on the wire.**

A body is an object of one sheet, an object that holds one such object under a key, or an object
that holds a list of them under a key.  All are read and written alike, so a statement about one
body is a statement about all.

Main definitions:

* `WorkspaceWatch.Model`: the bodies; `WorkspaceWatch.Model.Value`: their values;
* `WorkspaceWatch.Model.read`: a value from JSON, or every issue;
* `WorkspaceWatch.Model.dump`: the object of a value;
* `WorkspaceWatch.Model.decode`: a value from the bytes of a body.
-/

import WorkspaceWatch.Json.Parser
import WorkspaceWatch.Model.Sheet

set_option autoImplicit false

namespace WorkspaceWatch

/-- How a body holds its objects: it is the object, or holds it, or a list of objects, under a
key. -/
inductive Shape where
  | single (sheet : Sheet)
  | wrapped (key : String) (sheet : Sheet)
  | listed (key : String) (sheet : Sheet)
deriving DecidableEq, Repr

/-- The bodies: an object of a sheet, the lists of workspaces and of tasks, and the envelopes of
one workspace and one task. -/
inductive Model where
  | entry (sheet : Sheet)
  | workspaceList
  | taskList
  | workspaceEnvelope
  | taskEnvelope
deriving DecidableEq, Repr

namespace Shape

/-- The values of a shape. -/
def Value : Shape → Type
  | single s => Entry s
  | wrapped _ s => Entry s
  | listed _ s => List (Entry s)

/-- What stands under a required key. -/
def required {α : Type} (entries : List (String × Json)) (key : String) (read : Json → Checked α) :
    Checked α :=
  match Json.lookup? entries key with
  | some v => (read v).within (.key key)
  | none => .error [⟨[.key key], .missing⟩]

/-- The value of an object's entries, or every issue. -/
def ofEntries : (shape : Shape) → List (String × Json) → Checked shape.Value
  | single s, entries => Entry.ofEntries s entries
  | wrapped key s, entries => required entries key (Entry.read s)
  | listed key s, entries => required entries key fun
    | .array items => Entry.readItems s 0 items
    | _ => .error [⟨[], .notList⟩]

/-- The entries of the object of a value. -/
def dump (options : DumpOptions) : (shape : Shape) → shape.Value → List (String × Json)
  | single _, e => e.row.dump options
  | wrapped key _, e => [(key, e.dump options)]
  | listed key _, es => [(key, .array (List.map (Entry.dump options) es))]

/-- Whether two values are equal. -/
def sameValues : (shape : Shape) → shape.Value → shape.Value → Bool
  | single _, a, b => a.sameValues b
  | wrapped _ _, a, b => a.sameValues b
  | listed _ _, as, bs => List.length as == List.length bs &&
    (List.zip as bs).all fun (a, b) => a.sameValues b

/-- How many fields the object had, those of a wrapped object counted too. -/
def givenCount : (shape : Shape) → shape.Value → Nat
  | single _, e => e.row.givenCount
  | wrapped _ _, e => 1 + e.row.givenCount
  | listed _ _, _ => 1

end Shape

namespace Model

/-- The title in messages. -/
def title : Model → String
  | entry s => s.title
  | workspaceList => "WorkspaceListResponse"
  | taskList => "TaskListResponse"
  | workspaceEnvelope => "WorkspaceEnvelope"
  | taskEnvelope => "TaskEnvelope"

/-- How the body holds its objects. -/
def shape : Model → Shape
  | entry s => .single s
  | workspaceList => .listed "workspaces" .workspace
  | taskList => .listed "tasks" .task
  | workspaceEnvelope => .wrapped "workspace" .workspace
  | taskEnvelope => .wrapped "task" .task

/-- All bodies. -/
def all : List Model := [
  entry .workspace, workspaceList, entry .workspaceCreate, workspaceEnvelope, entry .failure,
  entry .task, taskList, taskEnvelope, entry .taskRequest, entry .status]

/-- The body with a given title. -/
def named? (title : String) : Option Model :=
  all.find? (·.title == title)

/-- Whether a body is fixed once it is read. -/
def isFixed : Model → Bool
  | entry s => s.isFixed
  | workspaceList => true
  | taskList | workspaceEnvelope | taskEnvelope => false

/-- The values of a body. -/
abbrev Value (m : Model) : Type := m.shape.Value

/-- The value of a JSON value, or every issue. -/
def read (m : Model) : Json → Checked m.Value
  | .object entries => m.shape.ofEntries entries
  | _ => .error [⟨[], .notObject m.title⟩]

/-- The entries of the object of a value. -/
def dump (m : Model) (options : DumpOptions) (v : m.Value) : List (String × Json) :=
  m.shape.dump options v

/-- Whether two values are equal; which fields they were given does not matter. -/
def sameValues (m : Model) (a b : m.Value) : Bool :=
  m.shape.sameValues a b

/-- The value of a JSON value in memory. -/
def ofJson (m : Model) (v : Json) : Except Rejection m.Value :=
  (m.read v).mapError (⟨m.title, .value, ·⟩)

/-- The value of a body. -/
def decode (m : Model) (bytes : ByteArray) : Except Rejection m.Value :=
  match Json.decode? bytes with
  | some v => (m.read v).mapError (⟨m.title, .text, ·⟩)
  | none => .error ⟨m.title, .text, [⟨[], .notJson⟩]⟩

end Model

end WorkspaceWatch
