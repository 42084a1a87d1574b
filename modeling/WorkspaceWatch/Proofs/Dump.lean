/-
**Objects written from a row.**

An object may be written from a row under either set of names, and may leave out the fields that
were not given and those without a value.  What is left out is what stands in for an absent field,
so an object written in any of these ways still holds the row.  It also does so among other
entries, in whatever order all of them stand, as long as none of the others has the name of a
field.

Main definitions:

* `WorkspaceWatch.Field.names`, `WorkspaceWatch.Field.Apart` — the names of a field, and fields
  that share none;
* `WorkspaceWatch.Field.FillsNull` — a field that takes `null` only for the value that stands in;
* `WorkspaceWatch.Row.IsFaithful` — what a row leaves out is what stands in;
* `WorkspaceWatch.Row.IsWritten` — an object gives each field what a row writes for it.

Main results:

* `WorkspaceWatch.Json.lookup?_of_perm` — **entries are looked up in any order**, those under other
  keys apart;
* `WorkspaceWatch.Row.isFaithful_of_read` — a row that was read leaves out what stands in;
* `WorkspaceWatch.Row.holds_of_dump` — **an object holds the row it was written from**;
* `WorkspaceWatch.Entry.exists_read_dump` — **and is read as that row**.
-/

import Mathlib.Data.List.Induction
import Mathlib.Data.List.Nodup
import WorkspaceWatch.Proofs.Schema

set_option autoImplicit false

namespace WorkspaceWatch

namespace Json

/-! ### Looking up keys -/

theorem lookup?_cons (k key : String) (v : Json) (entries : List (String × Json)) :
    lookup? ((k, v) :: entries) key = (lookup? entries key).or (if k = key then some v else none) := by
  induction entries using List.reverseRecOn with
  | nil => simp [lookup?]
  | append_singleton entries e ih =>
      obtain ⟨l, w⟩ := e
      rw [← List.cons_append, lookup?_append_singleton, lookup?_append_singleton, ih]
      by_cases hl : l = key <;> simp [hl]

theorem lookup?_eq_none_iff (entries : List (String × Json)) (key : String) :
    lookup? entries key = none ↔ ∀ e ∈ entries, e.1 ≠ key := by
  induction entries with
  | nil => simp
  | cons e entries ih =>
      obtain ⟨k, v⟩ := e
      rw [lookup?_cons, Option.or_eq_none_iff, ih, List.forall_mem_cons, and_comm]
      simp

theorem mem_of_lookup? {entries : List (String × Json)} {key : String} {v : Json}
    (h : lookup? entries key = some v) : (key, v) ∈ entries := by
  induction entries using List.reverseRecOn with
  | nil => cases h
  | append_singleton entries e ih =>
      obtain ⟨k, w⟩ := e
      rw [lookup?_append_singleton] at h
      by_cases hk : k = key
      · rw [if_pos hk] at h
        simp [hk, Option.some.inj h]
      · rw [if_neg hk] at h
        exact List.mem_append_left _ (ih h)

/-- A key that stands with one value only has that value, however often it stands. -/
theorem lookup?_of_unique {entries : List (String × Json)} {key : String} {v : Json}
    (hmem : (key, v) ∈ entries) (hunique : ∀ w, (key, w) ∈ entries → w = v) :
    lookup? entries key = some v := by
  cases h : lookup? entries key with
  | none => exact absurd rfl ((lookup?_eq_none_iff entries key).1 h _ hmem)
  | some w => rw [hunique w (mem_of_lookup? h)]

theorem eq_of_mem_of_nodup {entries : List (String × Json)} (h : (entries.map Prod.fst).Nodup)
    {key : String} {v w : Json} (hv : (key, v) ∈ entries) (hw : (key, w) ∈ entries) : w = v := by
  have hinj := List.inj_on_of_nodup_map h hw hv rfl
  exact (Prod.mk.inj hinj).2

/-- **Entries are looked up in any order**, and entries under other keys make no difference. -/
theorem lookup?_of_perm {entries kept others : List (String × Json)}
    (h : entries.Perm (kept ++ others)) (hkept : (kept.map Prod.fst).Nodup) {key : String}
    (hothers : ∀ e ∈ others, e.1 ≠ key) : lookup? entries key = lookup? kept key := by
  have hmem : ∀ v, (key, v) ∈ entries ↔ (key, v) ∈ kept := by
    intro v
    rw [h.mem_iff, List.mem_append]
    exact ⟨fun hv => hv.resolve_right fun hv => hothers _ hv rfl, .inl⟩
  cases hk : lookup? kept key with
  | some v =>
      have hv := mem_of_lookup? hk
      refine lookup?_of_unique ((hmem v).2 hv) ?_
      intro w hw
      exact eq_of_mem_of_nodup hkept hv ((hmem w).1 hw)
  | none =>
      rw [lookup?_eq_none_iff] at hk ⊢
      rintro ⟨k, v⟩ he rfl
      exact hk _ ((hmem v).1 he) rfl

end Json

/-! ### The names of fields -/

/-- The names under which an object may hold a field. -/
def Field.names (f : Field) : List String := [f.wire, f.name]

/-- No two of the fields share a name. -/
def Field.Apart (fs : List Field) : Prop := fs.Pairwise fun f g => ∀ n ∈ f.names, n ∉ g.names

instance (fs : List Field) : Decidable (Field.Apart fs) :=
  inferInstanceAs (Decidable (fs.Pairwise fun f g => ∀ n ∈ f.names, n ∉ g.names))

theorem Sheet.apart_fields (s : Sheet) : Field.Apart s.fields := by
  cases s <;> decide

theorem DumpOptions.key_eq (options : DumpOptions) (f : Field) :
    options.key f = f.wire ∨ options.key f = f.name := by
  unfold DumpOptions.key
  split
  · exact .inl rfl
  · exact .inr rfl

theorem DumpOptions.key_mem_names (options : DumpOptions) (f : Field) :
    options.key f ∈ f.names := by
  simpa [Field.names] using options.key_eq f

/-- A field stands for what is under the name it was written under, if nothing is under the
other. -/
theorem DumpOptions.standing?_eq (options : DumpOptions) {f : Field}
    {entries : List (String × Json)} {v? : Option Json}
    (h : ∀ n ∈ f.names, Json.lookup? entries n = if options.key f = n then v? else none) :
    Json.standing? entries f.wire f.name = v? := by
  have hwire := h f.wire (by simp [Field.names])
  have hname := h f.name (by simp [Field.names])
  rw [Json.standing?, hwire, hname]
  rcases options.key_eq f with hkey | hkey
  · rw [if_pos hkey]
    cases v? with
    | none => simp
    | some v => rfl
  · rw [if_pos hkey]
    by_cases hsame : options.key f = f.wire
    · rw [if_pos hsame, Option.or_self]
    · rw [if_neg hsame, Option.none_or]

/-! ### What may be left out -/

/-- A field takes `null` only for the value that stands in for an absent one. -/
def Field.FillsNull (f : Field) : Prop := ∀ x, f.kind.dump x = .null → f.standIn? = some x

theorem Field.fillsNull_plain (name wire : String) (c : Content) (d? : Option (Kind.plain c).Value) :
    (⟨name, wire, .plain c, d?⟩ : Field).FillsNull := by
  intro x h
  cases (c.dump_eq_text x).symm.trans h

theorem Field.fillsNull_optional (name wire : String) (c : Content) :
    (⟨name, wire, .optional c, some none⟩ : Field).FillsNull := by
  intro x h
  cases x with
  | none => rfl
  | some x => cases (c.dump_eq_text x).symm.trans h

theorem Sheet.fillsNull_fields (s : Sheet) : ∀ f ∈ s.fields, f.FillsNull := by
  cases s <;>
    simp only [Sheet.fields, Field.text, Field.optionalText, List.forall_mem_cons,
      Field.fillsNull_plain, Field.fillsNull_optional, List.not_mem_nil, false_implies,
      implies_true, and_self]

/-- What a cell leaves out of an object is what stands in for its field. -/
def Cell.IsFaithful {f : Field} (cell : Cell f) : Prop :=
  cell.given = false ∨ f.kind.dump cell.value = .null → f.standIn? = some cell.value

/-- What a cell writes, if it is not left out. -/
def Cell.written? (options : DumpOptions) {f : Field} (cell : Cell f) : Option Json :=
  if options.keeps cell.given (f.kind.dump cell.value) then some (f.kind.dump cell.value) else none

theorem Cell.isFaithful_of_read {f : Field} (hf : f.FillsNull) {entries : List (String × Json)}
    {cell : Cell f} (h : Cell.read f entries = .ok cell) : cell.IsFaithful := by
  rintro (hgiven | hnull)
  · revert h
    fun_cases Cell.read f entries with
    | case1 =>
        rintro ⟨⟩
        cases hgiven
    | case3 _ x hx =>
        rintro ⟨⟩
        exact hx
    | _ => exact nofun
  · exact hf _ hnull

namespace Row

variable {options : DumpOptions} {fs : List Field}

/-- What a row leaves out of an object is what stands in for its fields. -/
def IsFaithful : {fs : List Field} → Row fs → Prop
  | [], .nil => True
  | _ :: _, .cons cell rest => cell.IsFaithful ∧ rest.IsFaithful

/-- **A row that was read leaves out what stands in.** -/
theorem isFaithful_of_read (hfs : ∀ f ∈ fs, f.FillsNull) {entries : List (String × Json)}
    {r : Row fs} (h : Row.read fs entries = .ok r) : r.IsFaithful := by
  induction r with
  | nil => trivial
  | @cons f fs cell rest ih =>
      rw [read_cons_eq_ok_iff] at h
      rw [List.forall_mem_cons] at hfs
      exact ⟨Cell.isFaithful_of_read hfs.1 h.1, ih hfs.2 h.2⟩

theorem isFaithful_full (hfs : ∀ f ∈ fs, f.FillsNull) (r : Row fs) : r.full.IsFaithful := by
  induction r with
  | nil => trivial
  | @cons f fs cell rest ih =>
      rw [List.forall_mem_cons] at hfs
      refine ⟨?_, ih hfs.2⟩
      rintro (hgiven | hnull)
      · cases hgiven
      · exact hfs.1 _ hnull

/-! ### Written objects -/

theorem exists_field_of_mem_dump {r : Row fs} {e : String × Json} (h : e ∈ r.dump options) :
    ∃ f ∈ fs, e.1 = options.key f := by
  induction r with
  | nil => cases h
  | @cons f fs cell rest ih =>
      have hrest : e ∈ rest.dump options → ∃ g ∈ f :: fs, e.1 = options.key g := by
        intro he
        obtain ⟨g, hg, hkey⟩ := ih he
        exact ⟨g, List.mem_cons_of_mem f hg, hkey⟩
      simp only [dump] at h
      split at h
      · rcases List.mem_cons.1 h with rfl | h
        · exact ⟨f, List.mem_cons_self, rfl⟩
        · exact hrest h
      · exact hrest h

/-- The other fields of a row are not written under the names of the first. -/
theorem ne_of_mem_dump {f : Field} (hfs : Field.Apart (f :: fs)) {r : Row fs}
    {e : String × Json} (h : e ∈ r.dump options) {n : String} (hn : n ∈ f.names) : e.1 ≠ n := by
  obtain ⟨g, hg, he⟩ := exists_field_of_mem_dump h
  rintro rfl
  refine (List.pairwise_cons.1 hfs).1 g hg _ hn ?_
  rw [he]
  exact options.key_mem_names g

theorem lookup?_dump_eq_none {f : Field} (hfs : Field.Apart (f :: fs)) (r : Row fs) {n : String}
    (hn : n ∈ f.names) : Json.lookup? (r.dump options) n = none := by
  rw [Json.lookup?_eq_none_iff]
  intro e he
  exact ne_of_mem_dump hfs he hn

theorem nodup_keys_dump (hfs : Field.Apart fs) (r : Row fs) :
    ((r.dump options).map Prod.fst).Nodup := by
  induction r with
  | nil => exact .nil
  | @cons f fs cell rest ih =>
      have hrest := ih (List.pairwise_cons.1 hfs).2
      simp only [dump]
      split
      · rw [List.map_cons, List.nodup_cons]
        refine ⟨?_, hrest⟩
        intro hmem
        obtain ⟨e, he, hkey⟩ := List.mem_map.1 hmem
        exact ne_of_mem_dump hfs he (options.key_mem_names f) hkey
      · exact hrest

theorem absent_of_not_keeps {given : Bool} {v : Json} (h : options.keeps given v = false) :
    given = false ∨ v = .null := by
  cases v <;> simp_all [DumpOptions.keeps]

/-- The first field is found under its own names only, which none of the others is written under. -/
theorem lookup?_dump_cons {f : Field} (cell : Cell f) (r : Row fs) (n : String) :
    Json.lookup? ((cons cell r).dump options) n = (Json.lookup? (r.dump options) n).or
      (if options.key f = n then cell.written? options else none) := by
  simp only [dump, Cell.written?]
  split
  · rw [Json.lookup?_cons]
  · rw [ite_self, Option.or_none]

/-- What an object gives each field is what the cell of a row writes. -/
def IsWritten (options : DumpOptions) (entries : List (String × Json)) :
    {fs : List Field} → Row fs → Prop
  | [], .nil => True
  | f :: _, .cons cell rest =>
    Json.standing? entries f.wire f.name = cell.written? options ∧ rest.IsWritten options entries

/-- **A row is written in every object like the one written from it**: it is enough that the names
of the fields stand for the same in both. -/
theorem isWritten_of_dump (hfs : Field.Apart fs) {r : Row fs} {entries : List (String × Json)}
    (h : ∀ f ∈ fs, ∀ n ∈ f.names, Json.lookup? entries n = Json.lookup? (r.dump options) n) :
    r.IsWritten options entries := by
  induction r with
  | nil => trivial
  | @cons f fs cell rest ih =>
      obtain ⟨hfirst, hothers⟩ := List.forall_mem_cons.1 h
      have hapart := List.pairwise_cons.1 hfs
      refine ⟨options.standing?_eq ?_, ih hapart.2 ?_⟩
      · intro n hn
        rw [hfirst n hn, lookup?_dump_cons, lookup?_dump_eq_none hfs rest hn, Option.none_or]
      · intro g hg n hn
        have hne : options.key f ≠ n := by
          rintro rfl
          exact hapart.1 g hg _ (options.key_mem_names f) hn
        rw [hothers g hg n hn, lookup?_dump_cons, if_neg hne, Option.or_none]

theorem IsWritten.holds {r : Row fs} {entries : List (String × Json)}
    (h : r.IsWritten options entries) (hr : r.IsFaithful) : r.Holds entries := by
  induction r with
  | nil => trivial
  | @cons f fs cell rest ih =>
      refine ⟨?_, ih h.2 hr.2⟩
      rw [Field.Holds, h.1, Cell.written?]
      cases hkeeps : options.keeps cell.given (f.kind.dump cell.value) with
      | true => rfl
      | false => exact hr.1 (absent_of_not_keeps hkeeps)

/-- **An object holds the row it was written from.** -/
theorem holds_of_dump (options : DumpOptions) (hfs : Field.Apart fs) {r : Row fs} (hr : r.IsFaithful)
    {entries : List (String × Json)}
    (h : ∀ f ∈ fs, ∀ n ∈ f.names, Json.lookup? entries n = Json.lookup? (r.dump options) n) :
    r.Holds entries :=
  (isWritten_of_dump hfs h).holds hr

end Row

/-- **A written object is read as the row it was written from**, among other entries and in any
order. -/
theorem Entry.exists_read_dump {s : Sheet} (hs : s.IsFree) {r : Row s.fields} (hr : r.IsFaithful)
    {options : DumpOptions} {entries others : List (String × Json)}
    (h : entries.Perm (r.dump options ++ others))
    (hothers : ∀ e ∈ others, ∀ f ∈ s.fields, e.1 ∉ f.names) :
    ∃ e, Entry.read s (.object entries) = .ok e ∧ e.row.full = r.full := by
  rw [Entry.exists_read_iff hs]
  refine ⟨entries, rfl, Row.holds_of_dump options s.apart_fields hr ?_⟩
  intro f hf n hn
  refine Json.lookup?_of_perm h (Row.nodup_keys_dump s.apart_fields r) ?_
  rintro e he rfl
  exact hothers e he f hf hn

/-- A written object is read as the row it was written from, when it has no other entries. -/
theorem Entry.exists_read_dump_alone {s : Sheet} (hs : s.IsFree) {r : Row s.fields}
    (hr : r.IsFaithful) (options : DumpOptions) :
    ∃ e, Entry.read s (.object (r.dump options)) = .ok e ∧ e.row.full = r.full := by
  have hperm : (r.dump options).Perm (r.dump options ++ []) := by rw [List.append_nil]
  exact Entry.exists_read_dump hs hr hperm (by simp)

end WorkspaceWatch
