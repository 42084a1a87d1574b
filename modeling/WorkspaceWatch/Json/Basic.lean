/-
**JSON values.**

The daemon and its clients speak JSON.  A value keeps what its text says: the entries of an object
stand in the order they were written, repeated keys included, and a number without fraction and
exponent is a whole number of any size.  A key's value is that of its last entry.

Main definitions:

* `WorkspaceWatch.Json`: the values;
* `WorkspaceWatch.Json.lookup?`: the value of a key;
* `WorkspaceWatch.Json.unique`: the entries without those that a later one replaces.
-/

import WorkspaceWatch.Number.Binary64

set_option autoImplicit false

namespace WorkspaceWatch

/-- A JSON value. A number is whole if it is written without fraction and exponent; the entries of
an object keep the order in which they are written. -/
inductive Json where
  | null
  | bool (value : Bool)
  | int (value : Int)
  | float (value : Binary64)
  | text (value : String)
  | array (items : List Json)
  | object (entries : List (String × Json))
deriving Repr

namespace Json

instance : Inhabited Json := ⟨.null⟩

/-- The value of a key: that of the last entry with the key. -/
def lookup? (entries : List (String × Json)) (key : String) : Option Json :=
  entries.foldl (fun found entry => if entry.1 = key then some entry.2 else found) none

@[simp] theorem lookup?_nil (key : String) : lookup? [] key = none := rfl

/-- The last entry decides. -/
theorem lookup?_append_singleton (entries : List (String × Json)) (k key : String) (v : Json) :
    lookup? (entries ++ [(k, v)]) key = if k = key then some v else lookup? entries key := by
  simp [lookup?, List.foldl_append]

/-- Entries with one of them added, or replaced in its place if the key is there. -/
def insert {α : Type} (entries : List (String × α)) (key : String) (value : α) :
    List (String × α) :=
  if entries.any (·.1 == key) then
    entries.map fun entry => if entry.1 = key then (key, value) else entry
  else entries ++ [(key, value)]

/-- Every key once, at the place of its first entry and with the value of its last. -/
def unique {α : Type} (entries : List (String × α)) : List (String × α) :=
  entries.foldl (fun kept entry => insert kept entry.1 entry.2) []

/-- The entries of an object. -/
def entries? : Json → Option (List (String × Json))
  | object entries => some entries
  | _ => none

/-- The characters of a text. -/
def text? : Json → Option String
  | text s => some s
  | _ => none

/-! ### Equality of plain values

Truth values count as the numbers zero and one, numbers are compared as numbers whatever their
notation, and the order of an object's entries has no meaning. -/

/-- Whether two values without parts are equal, truth values counting as numbers. -/
def sameLeaf : Json → Json → Bool
  | null, null => true
  | bool a, bool b => a == b
  | bool a, int b => (if a then 1 else 0) == b
  | int a, bool b => a == (if b then 1 else 0)
  | bool a, float b => b.sameInt (if a then 1 else 0)
  | float a, bool b => a.sameInt (if b then 1 else 0)
  | int a, int b => a == b
  | int a, float b => b.sameInt a
  | float a, int b => a.sameInt b
  | float a, float b => a.sameNumber b
  | text a, text b => a == b
  | _, _ => false

mutual

/-- Whether two values are equal, to a depth of nesting. -/
def sameTo : Nat → Json → Json → Bool
  | 0, _, _ => false
  | depth + 1, array xs, array ys => sameItems depth xs ys
  | depth + 1, object xs, object ys =>
    let xs := unique xs
    let ys := unique ys
    xs.length == ys.length && sameEntries depth ys xs
  | _ + 1, x, y => sameLeaf x y

/-- Whether two lists of values are equal item by item. -/
def sameItems : Nat → List Json → List Json → Bool
  | _, [], [] => true
  | depth, x :: xs, y :: ys => sameTo depth x y && sameItems depth xs ys
  | _, _, _ => false

/-- Whether every entry has its equal among the others. -/
def sameEntries : Nat → List (String × Json) → List (String × Json) → Bool
  | _, _, [] => true
  | depth, ys, (k, x) :: xs =>
    (match ys.lookup k with
      | some y => sameTo depth x y
      | none => false) && sameEntries depth ys xs

end

mutual

/-- How deep arrays and objects are nested. -/
def depth : Json → Nat
  | array items => 1 + depthItems items
  | object entries => 1 + depthEntries entries
  | _ => 0

/-- The greatest depth among the items. -/
def depthItems : List Json → Nat
  | [] => 0
  | x :: xs => max (depth x) (depthItems xs)

/-- The greatest depth among the values of the entries. -/
def depthEntries : List (String × Json) → Nat
  | [] => 0
  | (_, x) :: xs => max (depth x) (depthEntries xs)

end

/-- Whether two values are equal. -/
def same (x y : Json) : Bool :=
  sameTo (depth x + 1) x y

end Json

end WorkspaceWatch
