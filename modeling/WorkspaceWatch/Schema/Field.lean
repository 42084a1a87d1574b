/-
**Fields and rows.**

A description of an object is a list of fields.  A field has a name of its own and a name on the
wire, a kind of value, and perhaps a value that stands in when it is absent.  Reading an object
against the list gives a row: one cell per field, which also knows whether the object had the
field.  A field's wire name is looked up first, its own name only if the wire name is absent;
keys that no field has are ignored.

Main definitions:

* `WorkspaceWatch.Kind`, `WorkspaceWatch.Field`: the descriptions;
* `WorkspaceWatch.Row`: a row of values for a list of fields;
* `WorkspaceWatch.Row.read`: a row from the entries of an object, or every issue;
* `WorkspaceWatch.Row.dump`: the entries of an object from a row.
-/

import WorkspaceWatch.Json.Basic
import WorkspaceWatch.Schema.Issue

set_option autoImplicit false

namespace WorkspaceWatch

/-- What a field holds: a text, or one of a list of words. -/
inductive Content where
  | text
  | member (of : Enumeration)
deriving DecidableEq, Repr

namespace Content

/-- The values a content stands for. -/
def Value : Content → Type
  | text => String
  | member e => e.Member

instance : (c : Content) → DecidableEq c.Value
  | text => inferInstanceAs (DecidableEq String)
  | member e => inferInstanceAs (DecidableEq e.Member)

/-- The value that a JSON value stands for. -/
def read : (c : Content) → Json → Except Fault c.Value
  | text, v =>
    match v with
    | .text s => .ok s
    | _ => .error .notText
  | member e, v =>
    match v with
    | .text s =>
      match e.find? s with
      | some m => .ok m
      | none => .error (.notMember e)
    | _ => .error (.notMember e)

/-- The JSON value of a value. -/
def dump : (c : Content) → c.Value → Json
  | text, s => .text s
  | member e, m => .text (e.text m)

/-- What is written is read back. -/
theorem read_dump : (c : Content) → (v : c.Value) → c.read (c.dump v) = .ok v
  | text, _ => rfl
  | member e, m => by
    have h : e.find? (e.text m) = some m := Enumeration.find?_text e m
    simp only [dump, read]
    rw [h]

end Content

/-- What values a field takes: those of its content, and perhaps `null`. -/
inductive Kind where
  | plain (content : Content)
  | optional (content : Content)
deriving DecidableEq, Repr

namespace Kind

/-- The values of a kind. -/
def Value : Kind → Type
  | plain c => c.Value
  | optional c => Option c.Value

instance : (k : Kind) → DecidableEq k.Value
  | plain c => inferInstanceAs (DecidableEq c.Value)
  | optional c => inferInstanceAs (DecidableEq (Option c.Value))

/-- The value of a kind that a JSON value stands for. -/
def read : (k : Kind) → Json → Except Fault k.Value
  | plain c, v => c.read v
  | optional c, v =>
    match v with
    | .null => .ok none
    | v => (c.read v).map some

/-- The JSON value of a value of a kind. -/
def dump : (k : Kind) → k.Value → Json
  | plain c, v => c.dump v
  | optional _, none => .null
  | optional c, some v => c.dump v

/-- What is written is read back. -/
theorem read_dump : (k : Kind) → (v : k.Value) → k.read (k.dump v) = .ok v
  | plain c, v => c.read_dump v
  | optional _, none => rfl
  | optional c, some v => by
    have h := c.read_dump v
    cases c <;> simp only [dump, read] <;> simp [h, Content.dump, Except.map] at h ⊢

end Kind

/-- A field of an object. -/
structure Field where
  /-- The field's own name. -/
  name : String
  /-- The field's name on the wire. -/
  wire : String
  /-- What values it takes. -/
  kind : Kind
  /-- The value that stands in for an absent one; a field without it is required. -/
  standIn? : Option kind.Value

/-- A value of a field. -/
structure Cell (f : Field) where
  /-- The value. -/
  value : f.kind.Value
  /-- Whether the object had it, or it stands in for an absent one. -/
  given : Bool

/-- What a reader finds in an object for a field: the value of its wire name, else that of its own
name, with the name it was found under. -/
def Field.find? (f : Field) (entries : List (String × Json)) : Option (String × Json) :=
  match Json.lookup? entries f.wire with
  | some v => some (f.wire, v)
  | none => (Json.lookup? entries f.name).map (f.name, ·)

/-- The cell of a field, from the entries of an object. -/
def Cell.read (f : Field) (entries : List (String × Json)) : Checked (Cell f) :=
  match f.find? entries with
  | some (name, v) =>
    match f.kind.read v with
    | .ok value => .ok ⟨value, true⟩
    | .error fault => .error [⟨[.key name], fault⟩]
  | none =>
    match f.standIn? with
    | some value => .ok ⟨value, false⟩
    | none => .error [⟨[.key f.wire], .missing⟩]

/-- The values of an object, one cell for each field of its description. -/
inductive Row : List Field → Type where
  | nil : Row []
  | cons {f : Field} {fs : List Field} (cell : Cell f) (rest : Row fs) : Row (f :: fs)

/-- Which entries are left out of a dump, and under which names the others stand. -/
structure DumpOptions where
  /-- Names on the wire, or the fields' own. -/
  wireNames : Bool := false
  /-- Fields that the object did not have are left out. -/
  onlyGiven : Bool := false
  /-- Fields without a value are left out. -/
  onlyPresent : Bool := false
deriving DecidableEq, Repr

/-- The name of a field in a dump. -/
def DumpOptions.key (options : DumpOptions) (f : Field) : String :=
  if options.wireNames then f.wire else f.name

/-- Whether a value stays in a dump. -/
def DumpOptions.keeps (options : DumpOptions) (given : Bool) (v : Json) : Bool :=
  (!options.onlyGiven || given) && !(options.onlyPresent && v matches .null)

namespace Row

/-- The row of an object's entries, or the issues of all its fields in order. -/
def read : (fs : List Field) → List (String × Json) → Checked (Row fs)
  | [], _ => .ok nil
  | f :: fs, entries =>
    (both (Cell.read f entries) (read fs entries)).map fun (cell, rest) => cons cell rest

/-- The entries of an object from a row. -/
def dump (options : DumpOptions) : {fs : List Field} → Row fs → List (String × Json)
  | [], nil => []
  | f :: _, cons cell rest =>
    let v := f.kind.dump cell.value
    if options.keeps cell.given v then (options.key f, v) :: rest.dump options
    else rest.dump options

/-- How many fields the object had. -/
def givenCount : {fs : List Field} → Row fs → Nat
  | [], nil => 0
  | _ :: _, cons cell rest => cell.given.toNat + rest.givenCount

/-- Whether two rows hold the same values. -/
def sameValues : {fs : List Field} → Row fs → Row fs → Bool
  | [], nil, nil => true
  | _ :: _, cons a as, cons b bs => decide (a.value = b.value) && as.sameValues bs

theorem sameValues_refl : {fs : List Field} → (r : Row fs) → r.sameValues r = true
  | [], nil => rfl
  | _ :: _, cons _ rest => by simp [sameValues, rest.sameValues_refl]

end Row

end WorkspaceWatch
