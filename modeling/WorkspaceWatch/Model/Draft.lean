/-
**Objects that are changed after they were read.**

An object that is not fixed can be given new values field by field.  The new values are kept as
they are, unchecked; they count as given, and are written in place of the old ones.

Main definitions:

* `WorkspaceWatch.Draft`: a value of a body with the changes made to it;
* `WorkspaceWatch.Draft.set`, `WorkspaceWatch.Draft.get`, `WorkspaceWatch.Draft.dump`;
* `WorkspaceWatch.Draft.same`: equality of what two drafts hold.
-/

import WorkspaceWatch.Model.Basic

set_option autoImplicit false

namespace WorkspaceWatch

/-- A value of a body with the changes made to it. -/
structure Draft where
  /-- Which body it is. -/
  model : Model
  /-- The value that was read. -/
  start : model.Value
  /-- The new values by field. -/
  changes : List (String × Json)

/-- Why a field cannot be used: the object is fixed, or has no such field to set, or none to get. -/
inductive DraftError where
  | frozen (model : Model) (name : String)
  | noField (model : Model) (name : String)
  | noAttribute (model : Model) (name : String)
deriving DecidableEq, Repr

/-- Why a value has no place in a table: it can be changed, or holds a list. -/
inductive HashError where
  | changeable (model : Model)
  | list
deriving DecidableEq, Repr

/-- What one field of a draft holds: a plain value, or objects that were read. -/
inductive Held where
  | plain (value : Json)
  | entry (sheet : Sheet) (value : Entry sheet)
  | entries (sheet : Sheet) (values : List (Entry sheet))

mutual

/-- A plain value as it is written: numbers that are not finite have no written form. -/
def finiteOnly : Json → Json
  | .float (.finite s m e) => .float (.finite s m e)
  | .float _ => .null
  | .array items => .array (finiteItems items)
  | .object entries => .object (finiteEntries entries)
  | v => v

/-- The items as they are written. -/
def finiteItems : List Json → List Json
  | [] => []
  | v :: vs => finiteOnly v :: finiteItems vs

/-- The entries as they are written. -/
def finiteEntries : List (String × Json) → List (String × Json)
  | [] => []
  | (k, v) :: vs => (k, finiteOnly v) :: finiteEntries vs

end

namespace Held

/-- The written form of what a field holds. -/
def dump (options : DumpOptions) : Held → Json
  | plain v => finiteOnly v
  | entry _ e => e.dump options
  | entries _ es => .array (es.map (Entry.dump options))

/-- Whether two fields hold the same.  An object that was read differs from every plain value, a
list only if one of the two has items. -/
def same : Held → Held → Bool
  | plain a, plain b => a.same b
  | entry s a, entry t b => if h : s = t then a.sameValues (h ▸ b) else false
  | entries s as, entries t bs =>
    if h : s = t then Shape.sameValues (.listed "" s) as (h ▸ bs : List (Entry s)) else false
  | entries _ as, plain (.array bs) => as.isEmpty && bs.isEmpty
  | plain (.array as), entries _ bs => as.isEmpty && bs.isEmpty
  | _, _ => false

end Held

/-- A field of a draft as it stands. -/
structure Slot where
  /-- The field's own name. -/
  name : String
  /-- The field's name on the wire. -/
  wire : String
  /-- Whether it was given or set. -/
  given : Bool
  /-- What it holds. -/
  held : Held

/-- The fields of a row. -/
def Row.slots : {fs : List Field} → Row fs → List Slot
  | [], .nil => []
  | f :: _, .cons cell rest =>
    ⟨f.name, f.wire, cell.given, .plain (f.kind.dump cell.value)⟩ :: rest.slots

/-- The fields of a value. -/
def Shape.slots : (shape : Shape) → shape.Value → List Slot
  | .single _, e => e.row.slots
  | .wrapped key s, e => [⟨key, key, true, .entry s e⟩]
  | .listed key s, es => [⟨key, key, true, .entries s es⟩]

namespace Draft

/-- A value without changes. -/
def ofValue (m : Model) (v : m.Value) : Draft := ⟨m, v, []⟩

/-- The fields as they stand. -/
def slots (d : Draft) : List Slot :=
  (d.model.shape.slots d.start).map fun slot =>
    match d.changes.lookup slot.name with
    | some v => { slot with given := true, held := .plain v }
    | none => slot

/-- The draft with one field changed. -/
def set (d : Draft) (name : String) (value : Json) : Except DraftError Draft :=
  if d.model.isFixed then .error (.frozen d.model name)
  else if d.slots.any (·.name == name) then
    .ok { d with changes := (name, value) :: d.changes }
  else .error (.noField d.model name)

/-- What a field holds. -/
def get (d : Draft) (name : String) : Except DraftError Json :=
  match d.slots.find? (·.name == name) with
  | some slot => .ok <| match slot.held with
    | .plain v => v
    | held => held.dump {}
  | none => .error (.noAttribute d.model name)

/-- The entries of the draft's object. -/
def dump (options : DumpOptions) (d : Draft) : List (String × Json) :=
  d.slots.filterMap fun slot =>
    let stays := match slot.held with
      | .plain v => options.keeps slot.given v
      | _ => options.keeps slot.given (.bool true)
    if stays then
      some (if options.wireNames then slot.wire else slot.name, slot.held.dump options)
    else none

/-- Whether two drafts are of the same body and hold the same. -/
def same (a b : Draft) : Bool :=
  a.model == b.model && (a.slots.zip b.slots).all fun (x, y) => x.held.same y.held

/-- Whether a draft has a place in a table. -/
def hashable (d : Draft) : Except HashError Unit :=
  if !d.model.isFixed then .error (.changeable d.model)
  else match d.model.shape with
    | .listed _ _ => .error .list
    | _ => .ok ()

end Draft

end WorkspaceWatch
