/-
**Reading undoes writing.**

A value that was read may be written in eight ways: under either set of names, with or without the
fields that were not given, with or without those that have no value.  Whichever is chosen, reading
what was written gives an equal value.  What was left out is what stands in for an absent field, and
a field is looked up under both of its names.  The value that is read back counts as given what was
written, so it is written in the same way again.

Main definitions:

* `WorkspaceWatch.Row.kept`, `WorkspaceWatch.Shape.kept` — a value that counts as given what is
  written of it;
* `WorkspaceWatch.Model.Obtained` — a value of a body that was read.

Main results:

* `WorkspaceWatch.Row.read_dump`, `WorkspaceWatch.Shape.ofEntries_dump` — **what is read back is what
  was kept**;
* `WorkspaceWatch.Row.dump_kept`, `WorkspaceWatch.Shape.dump_kept` — what was kept is written in the
  same way again;
* `WorkspaceWatch.Shape.same_slots_kept` — and it is equal to what was written;
* `WorkspaceWatch.Model.Obtained.reads_back` — **reading undoes writing, for all bodies and all ways
  to write them**.
-/

import WorkspaceWatch.Model.Draft
import WorkspaceWatch.Proofs.Listing
import WorkspaceWatch.Proofs.RequestBody

set_option autoImplicit false

namespace WorkspaceWatch

variable {options : DumpOptions}

/-! ### Cells and rows -/

/-- What counts as given because it is kept is kept again. -/
theorem DumpOptions.keeps_keeps (options : DumpOptions) (given : Bool) (v : Json) :
    options.keeps (options.keeps given v) v = options.keeps given v := by
  have hbool : ∀ a b c : Bool, ((a || ((a || b) && c)) && c) = ((a || b) && c) := by decide
  exact hbool (!options.onlyGiven) given _

/-- A cell that counts as given if it is written. -/
def Cell.kept (options : DumpOptions) {f : Field} (cell : Cell f) : Cell f :=
  ⟨cell.value, options.keeps cell.given (f.kind.dump cell.value)⟩

theorem Cell.read_written {f : Field} {cell : Cell f} (hcell : cell.IsFaithful)
    {entries : List (String × Json)}
    (h : Json.standing? entries f.wire f.name = cell.written? options) :
    Cell.read f entries = .ok (cell.kept options) := by
  rw [f.standing?_eq, Cell.written?] at h
  unfold Cell.read kept
  cases hkeeps : options.keeps cell.given (f.kind.dump cell.value) with
  | true =>
      rw [hkeeps, if_pos rfl, Option.map_eq_some_iff] at h
      obtain ⟨⟨key, v⟩, hfind, rfl⟩ := h
      simp only [hfind, f.kind.read_dump]
  | false =>
      rw [hkeeps, if_neg Bool.false_ne_true, Option.map_eq_none_iff] at h
      have hstandIn := hcell (Row.absent_of_not_keeps hkeeps)
      simp only [h, hstandIn]

namespace Row

variable {fs : List Field}

/-- A row that counts as given what is written of it. -/
def kept (options : DumpOptions) : {fs : List Field} → Row fs → Row fs
  | [], .nil => .nil
  | _ :: _, .cons cell rest => .cons (cell.kept options) (rest.kept options)

theorem IsWritten.read_eq {r : Row fs} {entries : List (String × Json)}
    (h : r.IsWritten options entries) (hr : r.IsFaithful) :
    Row.read fs entries = .ok (r.kept options) := by
  induction r with
  | nil => rfl
  | @cons f fs cell rest ih =>
      rw [kept, read_cons_eq_ok_iff]
      exact ⟨Cell.read_written hr.1 h.1, ih h.2 hr.2⟩

/-- **What is read back is what was kept.** -/
theorem read_dump (hfs : Field.Apart fs) {r : Row fs} (hr : r.IsFaithful)
    (options : DumpOptions) : Row.read fs (r.dump options) = .ok (r.kept options) := by
  have hwritten : r.IsWritten options (r.dump options) := isWritten_of_dump hfs fun _ _ _ _ => rfl
  exact hwritten.read_eq hr

/-- **What was kept is written in the same way again.** -/
theorem dump_kept (options : DumpOptions) (r : Row fs) :
    (r.kept options).dump options = r.dump options := by
  induction r with
  | nil => rfl
  | @cons f fs cell rest ih => simp only [kept, dump, Cell.kept, options.keeps_keeps, ih]

theorem sameValues_kept (options : DumpOptions) (r : Row fs) :
    (r.kept options).sameValues r = true := by
  induction r with
  | nil => rfl
  | @cons f fs cell rest ih => simp [kept, sameValues, Cell.kept, ih]

end Row

/-! ### Entries -/

/-- The rule of a sheet is about the values of a row alone. -/
theorem Sheet.rule_kept (options : DumpOptions) :
    (s : Sheet) → (r : Row s.fields) → s.rule (r.kept options) = s.rule r
  | .status, .cons _ (.cons _ .nil) => rfl
  | .workspace, _ | .workspaceCreate, _ | .task, _ | .taskRequest, _ | .failure, _ => rfl

namespace Entry

variable {s : Sheet}

/-- An entry that counts as given what is written of it. -/
def kept (options : DumpOptions) (e : Entry s) : Entry s :=
  ⟨e.row.kept options, (s.rule_kept options e.row).trans e.property⟩

theorem isFaithful_of_read {v : Json} {e : Entry s} (h : Entry.read s v = .ok e) :
    e.row.IsFaithful := by
  obtain ⟨entries, -, hrow⟩ := (Entry.read_eq_ok_iff v e).1 h
  exact Row.isFaithful_of_read s.fillsNull_fields hrow

theorem read_dump {e : Entry s} (he : e.row.IsFaithful) (options : DumpOptions) :
    Entry.read s (e.dump options) = .ok (e.kept options) :=
  (Entry.read_eq_ok_iff _ _).2 ⟨_, rfl, Row.read_dump s.apart_fields he options⟩

theorem dump_kept (options : DumpOptions) (e : Entry s) :
    (e.kept options).dump options = e.dump options := by
  rw [Entry.dump, Entry.dump, ← e.row.dump_kept options]
  rfl

theorem sameValues_kept (options : DumpOptions) (e : Entry s) :
    (e.kept options).sameValues e = true :=
  e.row.sameValues_kept options

/-- What each of the entries leaves out of an object is what stands in for its fields. -/
def AreFaithful (es : List (Entry s)) : Prop := ∀ e ∈ es, e.row.IsFaithful

theorem areFaithful_of_read {items : List Json} {es : List (Entry s)}
    (h : List.Forall₂ (fun v e => Entry.read s v = .ok e) items es) : AreFaithful es := by
  induction h with
  | nil => exact List.forall_mem_nil _
  | cons he _ ih => exact List.forall_mem_cons.2 ⟨isFaithful_of_read he, ih⟩

theorem read_map_dump {es : List (Entry s)} (hes : AreFaithful es) (options : DumpOptions) :
    List.Forall₂ (fun v e => Entry.read s v = .ok e) (es.map (Entry.dump options))
      (es.map (kept options)) := by
  rw [List.forall₂_map_left_iff, List.forall₂_map_right_iff, List.forall₂_same]
  intro e he
  exact read_dump (hes e he) options

theorem map_dump_kept (options : DumpOptions) (es : List (Entry s)) :
    (es.map (kept options)).map (Entry.dump options) = es.map (Entry.dump options) := by
  rw [List.map_map]
  exact List.map_congr_left fun e _ => e.dump_kept options

theorem sameValues_map_kept (options : DumpOptions) (key : String) (es : List (Entry s)) :
    (Shape.listed key s).sameValues (es.map (kept options)) es = true := by
  induction es with
  | nil => rfl
  | cons e es ih =>
      simp only [Shape.sameValues, List.map_cons, List.zip_cons_cons, List.all_cons,
        List.length_cons, Bool.and_eq_true] at ih ⊢
      exact ⟨by simp, e.sameValues_kept options, ih.2⟩

end Entry

/-! ### Bodies -/

namespace Shape

/-- What a value leaves out of an object is what stands in for its fields. -/
def IsFaithful : (shape : Shape) → shape.Value → Prop
  | single _, e => e.row.IsFaithful
  | wrapped _ _, e => e.row.IsFaithful
  | listed _ _, es => Entry.AreFaithful es

/-- A value that counts as given what is written of it. -/
def kept (options : DumpOptions) : (shape : Shape) → shape.Value → shape.Value
  | single _, e => e.kept options
  | wrapped _ _, e => e.kept options
  | listed _ _, es => List.map (Entry.kept options) es

theorem isFaithful_of_ofEntries {shape : Shape} {entries : List (String × Json)} {x : shape.Value}
    (h : shape.ofEntries entries = .ok x) : shape.IsFaithful x := by
  cases shape with
  | single s => exact Entry.isFaithful_of_read (v := .object entries) h
  | wrapped key s =>
      obtain ⟨v, -, hread⟩ := (Shape.required_eq_ok_iff _ _ _ _).1 h
      exact Entry.isFaithful_of_read hread
  | listed key s =>
      obtain ⟨items, -, hitems⟩ := (Entry.readListed_eq_ok_iff x).1 h
      exact Entry.areFaithful_of_read hitems

/-- **What is read back is what was kept.** -/
theorem ofEntries_dump {shape : Shape} {x : shape.Value} (hx : shape.IsFaithful x)
    (options : DumpOptions) : shape.ofEntries (shape.dump options x) = .ok (shape.kept options x) := by
  cases shape with
  | single s => exact Entry.read_dump hx options
  | wrapped key s =>
      refine (Shape.required_eq_ok_iff _ _ _ _).2 ⟨x.dump options, ?_, Entry.read_dump hx options⟩
      simp [dump, Json.lookup?_cons]
  | listed key s =>
      have hitems := Entry.read_map_dump hx options
      refine (Entry.readListed_eq_ok_iff _).2 ⟨_, ?_, hitems⟩
      simp [dump, Json.lookup?_cons]

/-- **What was kept is written in the same way again.** -/
theorem dump_kept (options : DumpOptions) (shape : Shape) (x : shape.Value) :
    shape.dump options (shape.kept options x) = shape.dump options x := by
  cases shape with
  | single s => exact Row.dump_kept options (Entry.row x)
  | wrapped key s => exact congrArg (fun v => [(key, v)]) (Entry.dump_kept options x)
  | listed key s => exact congrArg (fun vs => [(key, Json.array vs)]) (Entry.map_dump_kept options x)

end Shape

/-! ### Drafts without changes -/

theorem finiteOnly_dump (k : Kind) (x : k.Value) : finiteOnly (k.dump x) = k.dump x := by
  rcases k.dump_eq_null_or_text x with h | ⟨t, h⟩ <;> rw [h] <;> rfl

theorem Json.same_dump (k : Kind) (x : k.Value) : (k.dump x).same (k.dump x) = true := by
  rcases k.dump_eq_null_or_text x with h | ⟨t, h⟩ <;> rw [h] <;> simp [same, sameTo, sameLeaf]

/-- The entry that a field of a draft is written as, if it is not left out. -/
def Slot.entry? (options : DumpOptions) (slot : Slot) : Option (String × Json) :=
  let stays := match slot.held with
    | .plain v => options.keeps slot.given v
    | _ => options.keeps slot.given (.bool true)
  if stays then
    some (if options.wireNames then slot.wire else slot.name, slot.held.dump options)
  else none

theorem Row.filterMap_slots (options : DumpOptions) {fs : List Field} (r : Row fs) :
    r.slots.filterMap (Slot.entry? options) = r.dump options := by
  induction r with
  | nil => rfl
  | @cons f fs cell rest ih =>
      rw [slots, List.filterMap_cons, ih, dump]
      simp only [Slot.entry?, Held.dump, finiteOnly_dump]
      cases options.keeps cell.given (f.kind.dump cell.value) <;> rfl

theorem Row.same_slots_kept (options : DumpOptions) {fs : List Field} (r : Row fs) :
    ((r.kept options).slots.zip r.slots).all (fun (x, y) => x.held.same y.held) = true := by
  induction r with
  | nil => rfl
  | @cons f fs cell rest ih =>
      rw [kept, slots, slots, List.zip_cons_cons, List.all_cons, ih, Bool.and_true]
      exact Json.same_dump f.kind cell.value

/-- What must stand under its key is never left out. -/
theorem DumpOptions.keeps_given (options : DumpOptions) :
    options.keeps true (.bool true) = true := by
  simp [keeps]

theorem Shape.filterMap_slots (options : DumpOptions) (shape : Shape) (x : shape.Value) :
    (shape.slots x).filterMap (Slot.entry? options) = shape.dump options x := by
  cases shape with
  | single s => exact Row.filterMap_slots options (Entry.row x)
  | wrapped key s => simp [slots, dump, Slot.entry?, options.keeps_given, Held.dump]
  | listed key s => simp [slots, dump, Slot.entry?, options.keeps_given, Held.dump]

/-- **What was kept is equal to what was written.** -/
theorem Shape.same_slots_kept (options : DumpOptions) (shape : Shape) (x : shape.Value) :
    ((shape.slots (shape.kept options x)).zip (shape.slots x)).all
      (fun (x, y) => x.held.same y.held) = true := by
  cases shape with
  | single s => exact Row.same_slots_kept options (Entry.row x)
  | wrapped key s =>
      have hsame := Entry.sameValues_kept options x
      simpa [slots, kept, Held.same] using hsame
  | listed key s =>
      have hsame := Entry.sameValues_map_kept options "" x
      simpa [slots, kept, Held.same] using hsame

namespace Draft

variable {m : Model}

theorem slots_ofValue (m : Model) (x : m.Value) : (ofValue m x).slots = m.shape.slots x := by
  simp [slots, ofValue]

theorem dump_ofValue (m : Model) (x : m.Value) (options : DumpOptions) :
    (ofValue m x).dump options = m.dump options x := by
  have hdump : (ofValue m x).dump options =
      (ofValue m x).slots.filterMap (Slot.entry? options) := rfl
  rw [hdump, slots_ofValue, Shape.filterMap_slots]
  rfl

theorem same_ofValue_kept (m : Model) (x : m.Value) (options : DumpOptions) :
    (ofValue m (m.shape.kept options x)).same (ofValue m x) = true := by
  rw [same, slots_ofValue, slots_ofValue, m.shape.same_slots_kept, Bool.and_true]
  exact beq_self_eq_true m

end Draft

/-! ### Values that were read -/

namespace Model

variable {m : Model} {x : m.Value}

/-- A value of a body that was read, in memory or from bytes. -/
inductive Obtained (m : Model) (x : m.Value) : Prop
  | ofJson {v : Json} : m.ofJson v = .ok x → Obtained m x
  | ofBody {bytes : ByteArray} : m.decode bytes = .ok x → Obtained m x

theorem Obtained.exists_read (h : m.Obtained x) : ∃ v, m.read v = .ok x := by
  cases h with
  | ofJson h => exact ⟨_, (mapError_eq_ok_iff _ _ _).1 h⟩
  | ofBody h =>
      obtain ⟨v, -, hread⟩ := (m.decode_eq_ok_iff _ x).1 h
      exact ⟨v, hread⟩

theorem Obtained.isFaithful (h : m.Obtained x) : m.shape.IsFaithful x := by
  obtain ⟨v, hread⟩ := h.exists_read
  cases v with
  | object entries => exact Shape.isFaithful_of_ofEntries hread
  | _ => cases hread

/-- **Reading undoes writing.**  A value of a body that was read is written in one of eight ways;
what was written can be read, the value read back is equal to the first, and it is written in the
same way again. -/
theorem Obtained.reads_back (h : m.Obtained x) (options : DumpOptions) :
    ∃ y, m.ofJson (.object ((Draft.ofValue m x).dump options)) = .ok y ∧
      (Draft.ofValue m y).same (Draft.ofValue m x) = true ∧
      (Draft.ofValue m y).dump options = (Draft.ofValue m x).dump options := by
  refine ⟨m.shape.kept options x, ?_, Draft.same_ofValue_kept m x options, ?_⟩
  · rw [Draft.dump_ofValue, Model.ofJson, mapError_eq_ok_iff]
    exact Shape.ofEntries_dump h.isFaithful options
  · rw [Draft.dump_ofValue, Draft.dump_ofValue]
    exact m.shape.dump_kept options x

/-- A task with one field that is `null` and others that are missing is read back from the three
fields that are left. -/
theorem Obtained.reads_back_sparse :
    ∃ x y : (Model.entry .task).Value,
      (Model.entry .task).ofJson (.object [("id", .text "t1"), ("workspace_id", .text "w1"),
        ("status", .text "to_do"), ("agentType", .null)]) = .ok x ∧
      (Model.entry .task).ofJson (.object [("id", .text "t1"), ("workspaceId", .text "w1"),
        ("status", .text "to_do")]) = .ok y ∧
      (Draft.ofValue _ y).same (Draft.ofValue _ x) = true := by
  obtain ⟨x, hx⟩ : ∃ x, (Model.entry .task).ofJson (.object [("id", .text "t1"),
      ("workspace_id", .text "w1"), ("status", .text "to_do"), ("agentType", .null)]) = .ok x :=
    ⟨_, rfl⟩
  obtain ⟨y, hy, hsame, -⟩ := (Obtained.ofJson hx).reads_back ⟨true, true, true⟩
  cases hx
  exact ⟨_, y, rfl, hy, hsame⟩

end Model

end WorkspaceWatch
