/-
**What reading an object finds.**

A field either finds a value that it takes, or it has one issue of its own; it never passes over
one, and never takes a value for another.  This module says so for each layer of a description: a
kind reads exactly what it writes, the issues of an object are those of its fields in order, and
the issues of an array are those of its items in order.

Main definitions:

* `WorkspaceWatch.Checked.issues` — the issues that a check found;
* `WorkspaceWatch.Kind.accepts`, `WorkspaceWatch.Kind.fault` — which values a kind takes, and what
  is wrong with all others;
* `WorkspaceWatch.Json.standing?`, `WorkspaceWatch.Field.Holds` — what an object holds for a field;
* `WorkspaceWatch.Row.Holds` — what an object holds for all fields of a description;
* `WorkspaceWatch.Field.issue?`, `WorkspaceWatch.Sheet.issues` — the issues of a field and of an
  object, said without reading it.

Main results:

* `WorkspaceWatch.Kind.read_eq_ok_iff` — **reading is the inverse of writing**;
* `WorkspaceWatch.Row.exists_read_iff` — **a row of values is read exactly if the object holds them**;
* `WorkspaceWatch.Row.issues_read`, `WorkspaceWatch.Entry.issues_read` — the issues of an object
  are those of its fields, in their order;
* `WorkspaceWatch.Entry.readItems_eq_ok_iff`, `WorkspaceWatch.Entry.issues_readItems` — an array is
  read item by item, and the issues of all its items are reported, in their order.
-/

import Mathlib.Data.List.Forall2
import WorkspaceWatch.Model.Basic

set_option autoImplicit false

namespace WorkspaceWatch

/-! ### Results that may be errors -/

theorem map_eq_ok_iff {ε α β : Type} (f : α → β) (x : Except ε α) (b : β) :
    x.map f = .ok b ↔ ∃ a, x = .ok a ∧ f a = b := by
  cases x <;> simp [Except.map]

/-- Two results are mapped to the same if they are one error, or values that are. -/
theorem map_eq_map_iff {ε α β : Type} (f : α → β) (x x' : Except ε α) : x'.map f = x.map f ↔
    (∃ e, x = .error e ∧ x' = .error e) ∨ ∃ a a', x = .ok a ∧ x' = .ok a' ∧ f a' = f a := by
  cases x <;> cases x' <;> simp [Except.map, eq_comm]

theorem bind_eq_ok_iff {ε α β : Type} (x : Except ε α) (f : α → Except ε β) (b : β) :
    x >>= f = .ok b ↔ ∃ a, x = .ok a ∧ f a = .ok b := by
  cases x <;> simp [bind, Except.bind]

theorem mapError_eq_ok_iff {ε ε' α : Type} (f : ε → ε') (x : Except ε α) (a : α) :
    x.mapError f = .ok a ↔ x = .ok a := by
  cases x <;> simp [Except.mapError]

/-! ### Checks that collect issues -/

/-- The issues that a check found. -/
def Checked.issues {α : Type} : Checked α → List Issue
  | .ok _ => []
  | .error xs => xs

@[simp] theorem Checked.issues_ok {α : Type} (a : α) : Checked.issues (.ok a) = [] := rfl

@[simp] theorem Checked.issues_error {α : Type} (xs : List Issue) :
    Checked.issues (.error xs : Checked α) = xs := rfl

@[simp] theorem Checked.issues_map {α β : Type} (f : α → β) (x : Checked α) :
    Checked.issues (x.map f) = x.issues := by
  cases x <;> rfl

@[simp] theorem Checked.issues_within {α : Type} (step : Place) (x : Checked α) :
    (x.within step).issues = x.issues.map (·.within step) := by
  cases x <;> rfl

/-- A check without a value is known by its issues. -/
theorem Checked.eq_error_of_issues {α : Type} {x : Checked α} (h : ∀ a, x ≠ .ok a) :
    x = .error x.issues := by
  cases x with
  | ok a => exact absurd rfl (h a)
  | error xs => rfl

@[simp] theorem Checked.within_eq_ok_iff {α : Type} (step : Place) (x : Checked α) (a : α) :
    x.within step = .ok a ↔ x = .ok a := by
  cases x <;> simp [Checked.within]

/-- Two checks succeed exactly if each does. -/
theorem both_eq_ok_iff {α β : Type} (x : Checked α) (y : Checked β) (a : α) (b : β) :
    both x y = .ok (a, b) ↔ x = .ok a ∧ y = .ok b := by
  cases x <;> cases y <;> simp [both]

/-- Two checks report the issues of both. -/
@[simp] theorem issues_both {α β : Type} (x : Checked α) (y : Checked β) :
    (both x y).issues = x.issues ++ y.issues := by
  cases x <;> cases y <;> simp [both]

/-! ### Kinds -/

/-- What is wrong with a value that a content does not stand for. -/
def Content.fault : Content → Fault
  | text => .notText
  | member e => .notMember e

/-- Whether a JSON value is one of a content. -/
def Content.accepts : Content → Json → Bool
  | text, .text _ => true
  | member e, .text s => e.all.any fun m => e.text m == s
  | _, _ => false

/-- What is wrong with a value that a kind does not take. -/
def Kind.fault : Kind → Fault
  | plain c => c.fault
  | optional c => c.fault

/-- Whether a JSON value is one of a kind. -/
def Kind.accepts : Kind → Json → Bool
  | plain c, v => c.accepts v
  | optional _, .null => true
  | optional c, v => c.accepts v

/-- A content reads exactly what it writes. -/
theorem Content.read_eq_ok_iff (c : Content) (v : Json) (x : c.Value) :
    c.read v = .ok x ↔ v = c.dump x := by
  constructor
  · intro h
    cases c with
    | text =>
        cases v with
        | text s =>
            cases h
            rfl
        | _ => simp [Content.read] at h
    | member e =>
        cases v with
        | text s =>
            simp only [Content.read] at h
            split at h
            · next m hm =>
              cases h
              simp [Content.dump, Enumeration.text_of_find? hm]
            · cases h
        | _ => simp [Content.read] at h
  · rintro rfl
    exact c.read_dump x

/-- A content refuses what is none of its values, always for the same reason. -/
theorem Content.read_eq_error_iff (c : Content) (v : Json) (fault : Fault) :
    c.read v = .error fault ↔ c.accepts v = false ∧ fault = c.fault := by
  cases c with
  | text => cases v <;> simp [Content.read, Content.accepts, Content.fault, eq_comm]
  | member e =>
      cases v with
      | text s =>
          have hfind : e.find? s = none ↔ (e.all.any fun m => e.text m == s) = false := by
            simp [Enumeration.find?]
          simp only [Content.read, Content.accepts, Content.fault]
          cases hs : e.find? s with
          | none => simp [hfind.1 hs, eq_comm]
          | some m =>
              have : (e.all.any fun m => e.text m == s) = true := by
                rw [← Bool.not_eq_false, ← hfind, hs]
                simp
              simp [this]
      | _ => simp [Content.read, Content.accepts, Content.fault, eq_comm]

/-- A kind that takes `null` reads every other value as its content does. -/
theorem Kind.read_optional (c : Content) {v : Json} (h : v ≠ .null) :
    (Kind.optional c).read v = (c.read v).map some := by
  cases v <;> first | exact absurd rfl h | rfl

/-- **Reading is the inverse of writing**: a kind reads exactly the written forms of its values. -/
theorem Kind.read_eq_ok_iff (k : Kind) (v : Json) (x : k.Value) :
    k.read v = .ok x ↔ v = k.dump x := by
  constructor
  · intro h
    cases k with
    | plain c => exact (c.read_eq_ok_iff v x).1 h
    | optional c =>
        by_cases hv : v = .null
        · subst hv
          cases h
          rfl
        · rw [Kind.read_optional c hv] at h
          obtain ⟨a, ha, rfl⟩ := (map_eq_ok_iff some (c.read v) x).1 h
          exact (c.read_eq_ok_iff v a).1 ha
  · rintro rfl
    exact k.read_dump x

/-- A kind refuses what is none of its values, always for the same reason. -/
theorem Kind.read_eq_error_iff (k : Kind) (v : Json) (fault : Fault) :
    k.read v = .error fault ↔ k.accepts v = false ∧ fault = k.fault := by
  cases k with
  | plain c => exact c.read_eq_error_iff v fault
  | optional c =>
      by_cases hv : v = .null
      · subst hv
        simp [Kind.read, Kind.accepts]
      · have haccepts : (Kind.optional c).accepts v = c.accepts v := by
          cases v <;> first | exact absurd rfl hv | rfl
        rw [Kind.read_optional c hv, haccepts, Kind.fault, ← c.read_eq_error_iff v fault]
        cases c.read v with
        | ok a =>
            constructor
            · intro h
              cases h
            · intro h
              cases h
        | error e =>
            exact ⟨fun h => congrArg _ (Except.error.inj h), fun h => congrArg _ (Except.error.inj h)⟩

/-! ### Fields -/

/-- What an object holds under a name on the wire, another name counting only if that one is
absent. -/
def Json.standing? (entries : List (String × Json)) (wire name : String) : Option Json :=
  (lookup? entries wire).or (lookup? entries name)

@[simp] theorem Json.standing?_self (entries : List (String × Json)) (key : String) :
    standing? entries key key = lookup? entries key := by
  simp [standing?]

/-- Whether an object's entries give a field a value. -/
def Field.Holds (f : Field) (entries : List (String × Json)) (x : f.kind.Value) : Prop :=
  match Json.standing? entries f.wire f.name with
  | some v => v = f.kind.dump x
  | none => f.standIn? = some x

/-- The issue that an object's entries have for a field, under the name that was looked at. -/
def Field.issue? (f : Field) (entries : List (String × Json)) : Option Issue :=
  match f.find? entries with
  | some (key, v) => if f.kind.accepts v then none else some ⟨[.key key], f.kind.fault⟩
  | none => if f.standIn?.isSome then none else some ⟨[.key f.wire], .missing⟩

theorem Field.standing?_eq (f : Field) (entries : List (String × Json)) :
    Json.standing? entries f.wire f.name = (f.find? entries).map (·.2) := by
  unfold Json.standing? Field.find?
  cases Json.lookup? entries f.wire with
  | some v => rfl
  | none => simp [Function.comp_def]

/-- A field is read exactly if its object gives it a value, and then has that value. -/
theorem Cell.read_eq_ok_iff (f : Field) (entries : List (String × Json)) (x : f.kind.Value) :
    (∃ cell, Cell.read f entries = .ok cell ∧ cell.value = x) ↔ f.Holds entries x := by
  unfold Field.Holds
  rw [f.standing?_eq]
  unfold Cell.read
  cases f.find? entries with
  | some found =>
      obtain ⟨key, v⟩ := found
      simp only [Option.map_some, ← f.kind.read_eq_ok_iff]
      cases f.kind.read v with
      | ok y => simp
      | error fault => simp
  | none =>
      simp only [Option.map_none]
      cases f.standIn? with
      | some y => simp
      | none => simp

/-- Reading a field finds its issue, and no other. -/
theorem Cell.issues_read (f : Field) (entries : List (String × Json)) :
    (Cell.read f entries).issues = (f.issue? entries).toList := by
  unfold Cell.read Field.issue?
  cases f.find? entries with
  | some found =>
      obtain ⟨key, v⟩ := found
      simp only
      cases h : f.kind.read v with
      | ok y =>
          have haccepts : f.kind.accepts v = true := by
            by_contra hv
            have := (f.kind.read_eq_error_iff v f.kind.fault).2 ⟨by simpa using hv, rfl⟩
            rw [h] at this
            cases this
          simp [haccepts]
      | error fault =>
          obtain ⟨haccepts, rfl⟩ := (f.kind.read_eq_error_iff v fault).1 h
          simp [haccepts]
  | none =>
      simp only
      cases f.standIn? with
      | some y => simp
      | none => simp

/-! ### What the fields of each kind hold -/

/-- A key that need not be there holds a text, or it is absent or `null` for none. -/
def HoldsText? (found : Option Json) : Option String → Prop
  | some s => found = some (.text s)
  | none => found = none ∨ found = some .null

/-- The text that stands for a value of a content. -/
def Content.word : (c : Content) → c.Value → String
  | text, s => s
  | member e, m => e.text m

theorem Content.dump_eq_text (c : Content) (x : c.Value) : c.dump x = .text (c.word x) := by
  cases c <;> rfl

section Holds

variable (name wire : String) (c : Content) (entries : List (String × Json))

theorem Field.holds_required_iff (x : c.Value) :
    (⟨name, wire, .plain c, none⟩ : Field).Holds entries x ↔
      Json.standing? entries wire name = some (.text (c.word x)) := by
  simp only [Field.Holds, ← c.dump_eq_text]
  cases Json.standing? entries wire name with
  | none =>
      constructor
      · intro h
        cases h
      · intro h
        cases h
  | some v => exact ⟨congrArg some, Option.some.inj⟩

theorem Field.holds_defaulted_iff (d x : c.Value) :
    (⟨name, wire, .plain c, some d⟩ : Field).Holds entries x ↔
      Json.standing? entries wire name = some (.text (c.word x)) ∨
        Json.standing? entries wire name = none ∧ x = d := by
  simp only [Field.Holds, ← c.dump_eq_text]
  cases Json.standing? entries wire name with
  | none => exact ⟨fun h => .inr ⟨rfl, (Option.some.inj h).symm⟩, by rintro (h | ⟨-, rfl⟩) <;> trivial⟩
  | some v => exact ⟨fun h => .inl (congrArg some h), by rintro (h | ⟨h, -⟩) <;> cases h; rfl⟩

theorem Field.holds_optional_iff (x? : Option c.Value) :
    (⟨name, wire, .optional c, some none⟩ : Field).Holds entries x? ↔
      HoldsText? (Json.standing? entries wire name) (x?.map c.word) := by
  simp only [Field.Holds]
  cases x? with
  | none =>
      cases Json.standing? entries wire name with
      | none => exact ⟨fun _ => .inl rfl, fun _ => rfl⟩
      | some v =>
          constructor
          · intro h
            exact .inr (congrArg some h)
          · rintro (h | h)
            · cases h
            · exact Option.some.inj h
  | some x =>
      rw [Option.map_some, HoldsText?, ← c.dump_eq_text]
      cases Json.standing? entries wire name with
      | none =>
          constructor
          · intro h
            cases h
          · intro h
            cases h
      | some v => exact ⟨congrArg some, Option.some.inj⟩

theorem Field.holds_text_iff (s : String) :
    (Field.text name wire).Holds entries s ↔ Json.standing? entries wire name = some (.text s) :=
  Field.holds_required_iff name wire .text entries s

theorem Field.holds_optionalText_iff (s? : Option String) :
    (Field.optionalText name wire).Holds entries s? ↔
      HoldsText? (Json.standing? entries wire name) s? := by
  have h := Field.holds_optional_iff name wire .text entries s?
  have hword : Option.map Content.text.word s? = s? := by cases s? <;> rfl
  rwa [hword] at h

end Holds

/-! ### Objects -/

/-- The issues of a JSON value as an object of a sheet: those of its fields, in their order. -/
def Sheet.issues (s : Sheet) : Json → List Issue
  | .object entries => s.fields.flatMap fun f => (f.issue? entries).toList
  | _ => [⟨[], .notObject s.title⟩]

/-- A row is read exactly if each of its fields is. -/
theorem Row.read_cons_eq_ok_iff (f : Field) (fs : List Field) (entries : List (String × Json))
    (cell : Cell f) (rest : Row fs) :
    Row.read (f :: fs) entries = .ok (.cons cell rest) ↔
      Cell.read f entries = .ok cell ∧ Row.read fs entries = .ok rest := by
  rw [Row.read, map_eq_ok_iff, ← both_eq_ok_iff]
  constructor
  · rintro ⟨⟨c, r⟩, h, hrow⟩
    cases hrow
    exact h
  · intro h
    exact ⟨(cell, rest), h, rfl⟩

/-- Whether an object's entries give every field the value that a row has for it. -/
def Row.Holds (entries : List (String × Json)) : {fs : List Field} → Row fs → Prop
  | [], .nil => True
  | f :: _, .cons cell rest => f.Holds entries cell.value ∧ rest.Holds entries

/-- A row with the same values, all of them given. -/
def Row.full : {fs : List Field} → Row fs → Row fs
  | [], .nil => .nil
  | _ :: _, .cons cell rest => .cons ⟨cell.value, true⟩ rest.full

/-- **A row of values is read exactly if the object holds them.** -/
theorem Row.exists_read_iff (entries : List (String × Json)) {fs : List Field} (r : Row fs) :
    (∃ row, Row.read fs entries = .ok row ∧ row.full = r.full) ↔ r.Holds entries := by
  -- rows are compared with every cell given: reading also notes which cells were
  induction r with
  | nil => exact ⟨fun _ => trivial, fun _ => ⟨.nil, rfl, rfl⟩⟩
  | @cons f fs cell rest ih =>
      rw [Row.Holds, ← ih, ← Cell.read_eq_ok_iff]
      constructor
      · rintro ⟨row, h, hsame⟩
        cases row with
        | cons c r =>
            rw [Row.read_cons_eq_ok_iff] at h
            simp only [Row.full, Row.cons.injEq, Cell.mk.injEq, and_true] at hsame
            exact ⟨⟨c, h.1, hsame.1⟩, r, h.2, hsame.2⟩
      · rintro ⟨⟨c, hc, hvalue⟩, row, hrow, hsame⟩
        refine ⟨.cons c row, (Row.read_cons_eq_ok_iff f fs entries c row).2 ⟨hc, hrow⟩, ?_⟩
        simp [Row.full, hvalue, hsame]

/-- **The issues of a row are those of its fields, in their order.** -/
theorem Row.issues_read (fs : List Field) (entries : List (String × Json)) :
    (Row.read fs entries).issues = fs.flatMap fun f => (f.issue? entries).toList := by
  induction fs with
  | nil => rfl
  | cons f fs ih => simp [Row.read, Cell.issues_read, ih]

/-- Sheets whose fields have nothing to do with each other. -/
def Sheet.IsFree (s : Sheet) : Prop := ∀ row, s.rule row = none

theorem Sheet.isFree_workspace : Sheet.workspace.IsFree := fun _ => rfl

theorem Sheet.isFree_task : Sheet.task.IsFree := fun _ => rfl

theorem Sheet.isFree_failure : Sheet.failure.IsFree := fun _ => rfl

/-- An entry is read exactly if it comes from an object whose row is read. -/
theorem Entry.read_eq_ok_iff {s : Sheet} (v : Json) (e : Entry s) :
    Entry.read s v = .ok e ↔ ∃ entries, v = .object entries ∧ Row.read s.fields entries = .ok e.row := by
  cases v with
  | object entries =>
      simp only [Entry.read, Entry.ofEntries, Json.object.injEq, exists_eq_left']
      cases hr : Row.read s.fields entries with
      | error xs => simp
      | ok row =>
          simp only
          split
          · next h =>
            constructor
            · intro he
              cases he
              rfl
            · intro he
              exact congrArg _ (Subtype.ext (Except.ok.inj he))
          · next h =>
            -- the rule of the sheet was broken, but no entry breaks it
            refine iff_of_false (by simp) ?_
            intro he
            rw [Except.ok.inj he] at h
            cases e.property.symm.trans h
  | _ => simp [Entry.read]

/-- An entry of a sheet without a rule is read exactly if the object holds its values. -/
theorem Entry.exists_read_iff {s : Sheet} (hs : s.IsFree) (v : Json) (r : Row s.fields) :
    (∃ e, Entry.read s v = .ok e ∧ e.row.full = r.full) ↔
      ∃ entries, v = .object entries ∧ r.Holds entries := by
  simp only [← Row.exists_read_iff, Entry.read_eq_ok_iff]
  constructor
  · rintro ⟨e, ⟨entries, rfl, h⟩, hsame⟩
    exact ⟨entries, rfl, e.row, h, hsame⟩
  · rintro ⟨entries, rfl, row, h, hsame⟩
    exact ⟨⟨row, hs row⟩, ⟨entries, rfl, h⟩, hsame⟩

/-- **The issues of an object are those of its fields, in their order.** -/
theorem Entry.issues_read {s : Sheet} (hs : s.IsFree) (v : Json) :
    (Entry.read s v).issues = s.issues v := by
  cases v with
  | object entries =>
      rw [Sheet.issues, ← Row.issues_read, Entry.read, Entry.ofEntries]
      cases Row.read s.fields entries with
      | error xs => rfl
      | ok row =>
          simp only
          split
          · rfl
          · next h => simp [hs row] at h
  | _ => rfl

/-! ### Arrays -/

/-- **An array is read item by item**: it has a value exactly if every item has one. -/
theorem Entry.readItems_eq_ok_iff (s : Sheet) (position : Nat) (items : List Json)
    (es : List (Entry s)) :
    Entry.readItems s position items = .ok es ↔
      List.Forall₂ (fun v e => Entry.read s v = .ok e) items es := by
  induction items generalizing position es with
  | nil => simp [Entry.readItems, eq_comm]
  | cons v items ih =>
      rw [Entry.readItems, map_eq_ok_iff]
      constructor
      · rintro ⟨⟨e, rest⟩, h, rfl⟩
        rw [both_eq_ok_iff, Checked.within_eq_ok_iff, ih] at h
        exact .cons h.1 h.2
      · intro h
        cases h with
        | @cons _ e _ rest he hrest =>
            refine ⟨(e, rest), ?_, rfl⟩
            rw [both_eq_ok_iff, Checked.within_eq_ok_iff, ih]
            exact ⟨he, hrest⟩

/-- **The issues of an array are those of all its items, in their order.** -/
theorem Entry.issues_readItems {s : Sheet} (hs : s.IsFree) (position : Nat) (items : List Json) :
    (Entry.readItems s position items).issues =
      (items.zipIdx position).flatMap fun (v, i) => (s.issues v).map (·.within (.index i)) := by
  induction items generalizing position with
  | nil => rfl
  | cons v items ih => simp [Entry.readItems, Entry.issues_read hs, ih]

/-! ### Bodies -/

/-- What stands under a required key is read. -/
theorem Shape.required_eq_ok_iff {α : Type} (entries : List (String × Json)) (key : String)
    (read : Json → Checked α) (x : α) :
    Shape.required entries key read = .ok x ↔
      ∃ v, Json.lookup? entries key = some v ∧ read v = .ok x := by
  unfold Shape.required
  cases Json.lookup? entries key with
  | none => simp
  | some v => simp

theorem Model.read_entry (s : Sheet) (v : Json) : (Model.entry s).read v = Entry.read s v := by
  cases v <;> rfl

/-- A body is read exactly if it is the text of a JSON value that is. -/
theorem Model.decode_eq_ok_iff (m : Model) (body : ByteArray) (x : m.Value) :
    m.decode body = .ok x ↔ ∃ v, Json.decode? body = some v ∧ m.read v = .ok x := by
  unfold Model.decode
  cases Json.decode? body with
  | none => simp
  | some v => simp [mapError_eq_ok_iff]

end WorkspaceWatch
