/-
**Edits that no reader sees.**

An object is read by name: what stands under a name that a description does not have, the order in
which the entries stand, and what stands under a field's own name beside its name on the wire are
never looked at.  So an object can be edited in these three ways, at every level that is read, and
is read as before: as the same value, with the same fields given, or with the same issues in the
same order.

Main definitions:

* `WorkspaceWatch.Json.Rearranges` — the entries of one object, anywhere in a value, are put in
  another order;
* `WorkspaceWatch.Shape.names` — the names that a description looks up;
* `WorkspaceWatch.Json.Edits` — one edit that the readers of some shapes do not see;
* `WorkspaceWatch.Json.Alike` — two values that fields and lists of every kind, and the given
  shapes, take for the same.

Main results:

* `WorkspaceWatch.Shape.ofEntries_congr` — an object is read from what stands under the names of its
  description;
* `WorkspaceWatch.Json.Rearranges.alike`, `WorkspaceWatch.Json.Edits.alike` — what one edit leaves
  as it was;
* `WorkspaceWatch.readings_withstand_edits` — **a value that was edited any number of times is read
  as before**.
-/

import Mathlib.Data.List.Pairwise
import Mathlib.Logic.Relation
import WorkspaceWatch.Model.Reply
import WorkspaceWatch.Proofs.Dump
import WorkspaceWatch.Proofs.Written

set_option autoImplicit false

namespace WorkspaceWatch

/-! ### Looking up keys in edited objects -/

namespace Json

theorem lookup?_append (xs ys : List (String × Json)) (key : String) :
    lookup? (xs ++ ys) key = (lookup? ys key).or (lookup? xs key) := by
  induction xs with
  | nil => simp
  | cons x xs ih =>
      obtain ⟨k, v⟩ := x
      rw [List.cons_append, lookup?_cons, lookup?_cons, ih, Option.or_assoc]

section Places

variable (before after : List (String × Json)) {k key : String}

theorem lookup?_beside (v : Json) (h : k ≠ key) :
    lookup? (before ++ (k, v) :: after) key = lookup? (before ++ after) key := by
  rw [lookup?_append, lookup?_append, lookup?_cons, if_neg h, Option.or_none]

/-- An entry that is replaced changes what stands under its own key alone, unless a later entry
decides about that. -/
theorem lookup?_replaced (k key : String) (v v' : Json) :
    lookup? (before ++ (k, v) :: after) key = lookup? (before ++ (k, v') :: after) key ∨
      k = key ∧ lookup? (before ++ (k, v) :: after) key = some v ∧
        lookup? (before ++ (k, v') :: after) key = some v' := by
  by_cases hk : k = key
  · simp only [lookup?_append, lookup?_cons, if_pos hk]
    cases lookup? after key with
    | some w => exact .inl rfl
    | none => exact .inr ⟨hk, rfl, rfl⟩
  · left
    rw [lookup?_beside before after v hk, lookup?_beside before after v' hk]

end Places

theorem lookup?_filter_ne {name key : String} (h : key ≠ name) (entries : List (String × Json)) :
    lookup? (entries.filter fun e => e.1 ≠ name) key = lookup? entries key := by
  induction entries with
  | nil => rfl
  | cons e entries ih =>
      obtain ⟨k, v⟩ := e
      rw [lookup?_cons]
      by_cases hk : k = name
      · have hne : k ≠ key := by
          rintro rfl
          exact h hk
        rw [List.filter_cons_of_neg (by simpa using hk), ih, if_neg hne, Option.or_none]
      · rw [List.filter_cons_of_pos (by simpa using hk), lookup?_cons, ih]

/-! ### The edits -/

/-- The entries of one object with distinct keys, anywhere in a value, are put in another order. -/
inductive Rearranges : Json → Json → Prop
  | entries {es es' : List (String × Json)} :
      (es.map Prod.fst).Nodup → es.Perm es' → Rearranges (.object es) (.object es')
  | value (before after : List (String × Json)) (key : String) {v v' : Json} :
      Rearranges v v' →
        Rearranges (.object (before ++ (key, v) :: after)) (.object (before ++ (key, v') :: after))
  | item (before after : List Json) {v v' : Json} :
      Rearranges v v' →
        Rearranges (.array (before ++ v :: after)) (.array (before ++ v' :: after))

end Json

/-- The names that an object is asked for. -/
def Shape.names : Shape → List String
  | single s => s.fields.flatMap Field.names
  | wrapped key _ => [key]
  | listed key _ => [key]

/-- How the object of a body is read. -/
def Model.shapes (m : Model) : List Shape := [m.shape]

/-- How the object of a reply is read: in both ways. -/
def Reply.shapes (r : Reply) : List Shape := [.wrapped r.key r.sheet, .single r.sheet]

/-- One edit of a value that is read in some ways, at the top or at a level below that is read.
Entries are put in another order; an entry is added under a key that nobody asks for; entries under
a field's own name are added, changed or removed beside its name on the wire; the object under a key
is edited, or an item of the list under a key. -/
inductive Json.Edits : List Shape → Json → Json → Prop
  | rearranged {shapes : List Shape} {v v' : Json} : v.Rearranges v' → Edits shapes v v'
  | unnamed {shapes : List Shape} (before after : List (String × Json)) {key : String} (v : Json) :
      (∀ shape ∈ shapes, key ∉ shape.names) →
        Edits shapes (.object (before ++ after)) (.object (before ++ (key, v) :: after))
  | shadowed {shapes : List Shape} {s : Sheet} {f : Field} {es es' : List (String × Json)} :
      .single s ∈ shapes → f ∈ s.fields → f.name ≠ f.wire → (∃ v, (f.wire, v) ∈ es) →
        (es.filter fun e => e.1 ≠ f.name) = (es'.filter fun e => e.1 ≠ f.name) →
          Edits shapes (.object es) (.object es')
  | wrapped {shapes : List Shape} {key : String} {s : Sheet} (before after : List (String × Json))
      {v v' : Json} : .wrapped key s ∈ shapes → Edits [.single s] v v' →
        Edits shapes (.object (before ++ (key, v) :: after))
          (.object (before ++ (key, v') :: after))
  | item {shapes : List Shape} {key : String} {s : Sheet} (before after : List (String × Json))
      (front back : List Json) {v v' : Json} : .listed key s ∈ shapes → Edits [.single s] v v' →
        Edits shapes (.object (before ++ (key, .array (front ++ v :: back)) :: after))
          (.object (before ++ (key, .array (front ++ v' :: back)) :: after))

/-! ### What is read of an object -/

theorem Kind.read_array (k : Kind) (items : List Json) :
    k.read (.array items) = .error k.fault := by
  rcases k with (_ | e) | (_ | e) <;> rfl

theorem Kind.read_object (k : Kind) (entries : List (String × Json)) :
    k.read (.object entries) = .error k.fault := by
  rcases k with (_ | e) | (_ | e) <;> rfl

/-- The entries of the items of an array; no other value has items. -/
def Entry.readArray (s : Sheet) : Json → Checked (List (Entry s))
  | .array items => readItems s 0 items
  | _ => .error [⟨[], .notList⟩]

/-- The value of a shape, if there is an object at all. -/
def Shape.read? (shape : Shape) : Json → Option (Checked shape.Value)
  | .object entries => some (shape.ofEntries entries)
  | _ => none

theorem Entry.read_eq_getD (s : Sheet) (v : Json) :
    Entry.read s v = ((Shape.single s).read? v).getD (.error [⟨[], .notObject s.title⟩]) := by
  cases v <;> rfl

theorem Model.read_eq_getD (m : Model) (v : Json) :
    m.read v = (m.shape.read? v).getD (.error [⟨[], .notObject m.title⟩]) := by
  cases v <;> rfl

theorem Reply.readEnvelope_eq_getD (r : Reply) (v : Json) :
    r.readEnvelope v =
      ((Shape.wrapped r.key r.sheet).read? v).getD
        (.error [⟨[], .notObject r.envelope.title⟩]) := by
  cases v <;> rfl

theorem Shape.ofEntries_listed (key : String) (s : Sheet) (entries : List (String × Json)) :
    (Shape.listed key s).ofEntries entries = required entries key (Entry.readArray s) := rfl

section Congr

variable {es es' : List (String × Json)}

theorem Row.read_congr {fs : List Field} (h : ∀ f ∈ fs, Cell.read f es = Cell.read f es') :
    Row.read fs es = Row.read fs es' := by
  induction fs with
  | nil => rfl
  | cons f fs ih =>
      rw [List.forall_mem_cons] at h
      rw [read, read, h.1, ih h.2]

theorem Entry.ofEntries_congr {s : Sheet} (h : ∀ f ∈ s.fields, Cell.read f es = Cell.read f es') :
    Entry.ofEntries s es = Entry.ofEntries s es' := by
  rw [ofEntries, ofEntries, Row.read_congr h]

theorem Cell.read_congr {f : Field}
    (h : ∀ n ∈ f.names, Json.lookup? es n = Json.lookup? es' n) :
    Cell.read f es = Cell.read f es' := by
  have hwire := h f.wire (by simp [Field.names])
  have hname := h f.name (by simp [Field.names])
  rw [read, read, Field.find?, Field.find?, hwire, hname]

theorem Shape.required_congr {α : Type} {key : String} (read : Json → Checked α)
    (h : Json.lookup? es key = Json.lookup? es' key) :
    required es key read = required es' key read := by
  rw [required, required, h]

/-- **An object is read from what stands under the names of its description.** -/
theorem Shape.ofEntries_congr {shape : Shape}
    (h : ∀ n ∈ shape.names, Json.lookup? es n = Json.lookup? es' n) :
    shape.ofEntries es = shape.ofEntries es' := by
  cases shape with
  | single s =>
      refine Entry.ofEntries_congr ?_
      intro f hf
      refine Cell.read_congr ?_
      intro n hn
      exact h n (List.mem_flatMap.2 ⟨f, hf, hn⟩)
  | wrapped key s =>
      exact required_congr (Entry.read s) (h key (by simp [names]))
  | listed key s =>
      rw [ofEntries_listed, ofEntries_listed]
      exact required_congr (Entry.readArray s) (h key (by simp [names]))

end Congr

/-! ### What is read when one entry is replaced -/

section Replaced

variable (before after : List (String × Json)) {key : String} {v v' : Json}

theorem Cell.read_replaced (f : Field) (h : ∀ k : Kind, k.read v = k.read v') :
    Cell.read f (before ++ (key, v) :: after) = Cell.read f (before ++ (key, v') :: after) := by
  unfold Cell.read Field.find?
  rcases Json.lookup?_replaced before after key f.wire v v' with hwire | ⟨-, hwire, hwire'⟩
  · rw [hwire]
    cases Json.lookup? (before ++ (key, v') :: after) f.wire with
    | some w => rfl
    | none =>
        rcases Json.lookup?_replaced before after key f.name v v' with hname | ⟨-, hname, hname'⟩
        · rw [hname]
        · simp only [hname, hname', Option.map_some, h]
  · simp only [hwire, hwire', h]

theorem Shape.required_replaced {α : Type} (read : Json → Checked α) (name : String)
    (h : key = name → read v = read v') :
    required (before ++ (key, v) :: after) name read =
      required (before ++ (key, v') :: after) name read := by
  rcases Json.lookup?_replaced before after key name v v' with heq | ⟨hkey, hv, hv'⟩
  · exact required_congr read heq
  · simp only [required, hv, hv', h hkey]

/-- An entry may be replaced by one that is read alike where it is read. -/
theorem Shape.ofEntries_replaced (shape : Shape) (hkind : ∀ k : Kind, k.read v = k.read v')
    (hentry : ∀ s, shape = .wrapped key s → Entry.read s v = Entry.read s v')
    (harray : ∀ s, shape = .listed key s → Entry.readArray s v = Entry.readArray s v') :
    shape.ofEntries (before ++ (key, v) :: after) =
      shape.ofEntries (before ++ (key, v') :: after) := by
  cases shape with
  | single s =>
      refine Entry.ofEntries_congr ?_
      intro f _
      exact Cell.read_replaced before after f hkind
  | wrapped name s =>
      refine required_replaced before after (Entry.read s) name ?_
      rintro rfl
      exact hentry s rfl
  | listed name s =>
      rw [ofEntries_listed, ofEntries_listed]
      refine required_replaced before after (Entry.readArray s) name ?_
      rintro rfl
      exact harray s rfl

theorem Entry.readItems_replaced (s : Sheet) (position : Nat) (front back : List Json)
    (h : Entry.read s v = Entry.read s v') :
    Entry.readItems s position (front ++ v :: back) =
      Entry.readItems s position (front ++ v' :: back) := by
  induction front generalizing position with
  | nil => rw [List.nil_append, List.nil_append, readItems, readItems, h]
  | cons x front ih => rw [List.cons_append, List.cons_append, readItems, readItems, ih]

end Replaced

/-! ### Values that are taken for the same -/

namespace Json

/-- Two values that fields and lists of every kind, and the given shapes, take for the same. -/
structure Alike (shapes : List Shape) (v v' : Json) : Prop where
  /-- No field can tell them apart. -/
  kind : ∀ k : Kind, k.read v = k.read v'
  /-- No list can. -/
  array : ∀ s, Entry.readArray s v = Entry.readArray s v'
  /-- None of the shapes can. -/
  shape : ∀ shape ∈ shapes, shape.read? v = shape.read? v'

theorem alike_object {shapes : List Shape} {es es' : List (String × Json)}
    (h : ∀ shape ∈ shapes, shape.ofEntries es = shape.ofEntries es') :
    Alike shapes (.object es) (.object es') := by
  refine ⟨?_, fun s => rfl, ?_⟩
  · intro k
    rw [k.read_object, k.read_object]
  · intro shape hshape
    rw [Shape.read?, Shape.read?, h shape hshape]

theorem Alike.entry {s : Sheet} {v v' : Json} (h : Alike [.single s] v v') :
    Entry.read s v = Entry.read s v' := by
  rw [Entry.read_eq_getD, Entry.read_eq_getD, h.shape _ (by simp)]

/-- **A value whose entries stand in another order is taken for the same**, however it is read. -/
theorem Rearranges.alike {v v' : Json} (h : v.Rearranges v') (shapes : List Shape) :
    Alike shapes v v' := by
  induction h generalizing shapes with
  | @entries es es' hnodup hperm =>
      refine alike_object ?_
      intro shape _
      refine Shape.ofEntries_congr ?_
      intro n _
      have hsame : es'.Perm (es ++ []) := by
        rw [List.append_nil]
        exact hperm.symm
      exact (lookup?_of_perm hsame hnodup (by simp)).symm
  | value before after key _ ih =>
      refine alike_object ?_
      intro shape _
      refine shape.ofEntries_replaced before after (ih []).kind ?_ ?_
      · intro s _
        exact (ih [.single s]).entry
      · intro s _
        exact (ih []).array s
  | item before after _ ih =>
      refine ⟨?_, ?_, fun shape _ => rfl⟩
      · intro k
        rw [k.read_array, k.read_array]
      · intro s
        exact Entry.readItems_replaced s 0 before after (ih [.single s]).entry

end Json

/-- Shapes that share a name are the same. -/
def Shape.Apart (shapes : List Shape) : Prop :=
  ∀ a ∈ shapes, ∀ b ∈ shapes, ∀ n ∈ a.names, n ∈ b.names → a = b

instance (shapes : List Shape) : Decidable (Shape.Apart shapes) :=
  inferInstanceAs
    (Decidable (∀ a ∈ shapes, ∀ b ∈ shapes, ∀ n ∈ a.names, n ∈ b.names → a = b))

theorem Shape.apart_singleton (shape : Shape) : Apart [shape] := by
  intro a ha b hb n _ _
  rw [List.mem_singleton.1 ha, List.mem_singleton.1 hb]

theorem Reply.apart_shapes (r : Reply) : Shape.Apart r.shapes := by
  cases r <;> decide

/-- What stands under a field's own name does not matter beside its name on the wire. -/
theorem Cell.read_shadowed {s : Sheet} {f g : Field} (hf : f ∈ s.fields) (hg : g ∈ s.fields)
    (hne : f.name ≠ f.wire) {es es' : List (String × Json)} (hwire : ∃ v, (f.wire, v) ∈ es)
    (h : ∀ key, key ≠ f.name → Json.lookup? es key = Json.lookup? es' key) :
    Cell.read g es = Cell.read g es' := by
  by_cases hsame : g = f
  · subst hsame
    obtain ⟨v, hv⟩ := hwire
    have hfound : Json.lookup? es g.wire ≠ none := by
      intro hnone
      exact (Json.lookup?_eq_none_iff es g.wire).1 hnone _ hv rfl
    have hkept := h g.wire hne.symm
    rw [read, read, Field.find?, Field.find?, ← hkept]
    cases hw : Json.lookup? es g.wire with
    | none => exact absurd hw hfound
    | some w => rfl
  · refine Cell.read_congr ?_
    intro n hn
    refine h n ?_
    rintro rfl
    have hsymm : Std.Symm fun f g : Field => ∀ n ∈ f.names, n ∉ g.names :=
      ⟨fun a b hab n hb ha => hab n ha hb⟩
    have hpairs : s.fields.Pairwise fun f g => ∀ n ∈ f.names, n ∉ g.names := s.apart_fields
    exact hpairs.forall hg hf hsame f.name hn (by simp [Field.names])

/-- **An edited value is taken for the same** by all who read it in the given ways. -/
theorem Json.Edits.alike {shapes : List Shape} {v v' : Json} (h : Json.Edits shapes v v')
    (hshapes : Shape.Apart shapes) : Json.Alike shapes v v' := by
  induction h with
  | rearranged h => exact h.alike _
  | unnamed before after v hkey =>
      refine Json.alike_object ?_
      intro shape hshape
      refine Shape.ofEntries_congr ?_
      intro n hn
      refine (Json.lookup?_beside before after v ?_).symm
      rintro rfl
      exact hkey shape hshape hn
  | @shadowed shapes s f es es' hs hf hne hwire hfilter =>
      have hlookup : ∀ key, key ≠ f.name → Json.lookup? es key = Json.lookup? es' key := by
        intro key hkey
        rw [← Json.lookup?_filter_ne hkey es, hfilter, Json.lookup?_filter_ne hkey]
      refine Json.alike_object ?_
      intro shape hshape
      by_cases hsame : shape = .single s
      · subst hsame
        refine Entry.ofEntries_congr ?_
        intro g hg
        exact Cell.read_shadowed hf hg hne hwire hlookup
      · refine Shape.ofEntries_congr ?_
        intro n hn
        refine hlookup n ?_
        rintro rfl
        have hname : f.name ∈ (Shape.single s).names :=
          List.mem_flatMap.2 ⟨f, hf, by simp [Field.names]⟩
        exact hsame (hshapes shape hshape _ hs _ hn hname)
  | @wrapped shapes key s before after v v' hs _ ih =>
      have hinner := ih (Shape.apart_singleton _)
      refine Json.alike_object ?_
      intro shape hshape
      refine shape.ofEntries_replaced before after hinner.kind ?_ ?_
      · rintro s' rfl
        cases hshapes _ hshape _ hs key (by simp [Shape.names]) (by simp [Shape.names])
        exact hinner.entry
      · intro s' _
        exact hinner.array s'
  | @item shapes key s before after front back v v' hs _ ih =>
      have hinner := ih (Shape.apart_singleton _)
      refine Json.alike_object ?_
      intro shape hshape
      refine shape.ofEntries_replaced before after ?_ ?_ ?_
      · intro k
        rw [k.read_array, k.read_array]
      · intro s' _
        rfl
      · rintro s' rfl
        cases hshapes _ hshape _ hs key (by simp [Shape.names]) (by simp [Shape.names])
        exact Entry.readItems_replaced s 0 front back hinner.entry

/-! ### Any number of edits -/

theorem Model.read_of_edits {m : Model} {v v' : Json}
    (h : Relation.EqvGen (Json.Edits m.shapes) v v') : m.read v = m.read v' := by
  induction h with
  | rel v v' h =>
      have halike := h.alike (Shape.apart_singleton m.shape)
      rw [m.read_eq_getD, m.read_eq_getD, halike.shape m.shape (by simp [shapes])]
  | refl v => rfl
  | symm v v' _ ih => exact ih.symm
  | trans v v' w _ _ ih ih' => exact ih.trans ih'

theorem Reply.read_of_edits {r : Reply} {v v' : Json}
    (h : Relation.EqvGen (Json.Edits r.shapes) v v') : r.read v = r.read v' := by
  induction h with
  | rel v v' h =>
      have halike := h.alike r.apart_shapes
      have henvelope : r.readEnvelope v = r.readEnvelope v' := by
        rw [r.readEnvelope_eq_getD, r.readEnvelope_eq_getD, halike.shape _ (by simp [shapes])]
      have hbare : Entry.read r.sheet v = Entry.read r.sheet v' := by
        rw [Entry.read_eq_getD, Entry.read_eq_getD, halike.shape _ (by simp [shapes])]
      rw [read, read, henvelope, hbare]
  | refl v => rfl
  | symm v v' _ ih => exact ih.symm
  | trans v v' w _ _ ih ih' => exact ih.trans ih'

/-- **A value that was edited any number of times is read as before**, as every body and as every
reply, in memory and as text: as the same value with the same fields given, or with the same issues
in the same order. -/
theorem readings_withstand_edits :
    (∀ (m : Model) v v', Relation.EqvGen (Json.Edits m.shapes) v v' →
      m.ofJson v = m.ofJson v' ∧
        ∀ body body', Json.decode? body = some v → Json.decode? body' = some v' →
          m.decode body = m.decode body') ∧
    ∀ (r : Reply) v v', Relation.EqvGen (Json.Edits r.shapes) v v' →
      r.ofJson v = r.ofJson v' ∧
        ∀ body body', Json.decode? body = some v → Json.decode? body' = some v' →
          r.decode body = r.decode body' := by
  constructor
  · intro m v v' h
    have hread := Model.read_of_edits h
    refine ⟨by rw [Model.ofJson, Model.ofJson, hread], ?_⟩
    intro body body' hbody hbody'
    simp only [Model.decode, hbody, hbody', hread]
  · intro r v v' h
    have hread := Reply.read_of_edits h
    refine ⟨by rw [Reply.ofJson, Reply.ofJson, hread], ?_⟩
    intro body body' hbody hbody'
    simp only [Reply.decode, hbody, hbody', hread]

/-- A workspace in an envelope. -/
def plainWorkspace : Json :=
  .object [("workspace", .object [("id", .text "w1"), ("localRepoDir", .text "/p")])]

/-- The same workspace, its entries in another order, a folder beside its folder on the wire, and
an entry beside it that nobody asks for. -/
def editedWorkspace : Json :=
  .object [("flows", .null), ("workspace", .object
    [("local_repo_dir", .null), ("localRepoDir", .text "/p"), ("id", .text "w1")])]

theorem edits_plainWorkspace {shapes : List Shape}
    (hwrapped : Shape.wrapped "workspace" .workspace ∈ shapes)
    (hflows : ∀ shape ∈ shapes, "flows" ∉ shape.names) :
    Relation.EqvGen (Json.Edits shapes) plainWorkspace editedWorkspace := by
  have hturned : Json.Edits shapes plainWorkspace (.object [("workspace", .object
      [("localRepoDir", .text "/p"), ("id", .text "w1")])]) :=
    .rearranged (.value [] [] "workspace" (.entries (by decide) (.swap _ _ [])))
  have hshadowed : Json.Edits shapes
      (.object [("workspace", .object [("localRepoDir", .text "/p"), ("id", .text "w1")])])
      (.object [("workspace", .object
        [("local_repo_dir", .null), ("localRepoDir", .text "/p"), ("id", .text "w1")])]) := by
    have hfield : Field.optionalText "local_repo_dir" "localRepoDir" ∈ Sheet.workspace.fields := by
      simp [Sheet.fields]
    refine .wrapped [] [] hwrapped ?_
    exact .shadowed List.mem_cons_self hfield (by decide) ⟨.text "/p", .head _⟩ rfl
  have hunnamed : Json.Edits shapes _ editedWorkspace := .unnamed [] _ .null hflows
  exact .trans _ _ _ (.rel _ _ hturned) (.trans _ _ _ (.rel _ _ hshadowed) (.rel _ _ hunnamed))

/-- The workspace is read as before, as a body and as a reply. -/
theorem readings_withstand_edits_workspace :
    Model.workspaceEnvelope.ofJson plainWorkspace =
        Model.workspaceEnvelope.ofJson editedWorkspace ∧
      Reply.workspace.decode (Json.compact plainWorkspace).toUTF8 =
        Reply.workspace.decode (Json.compact editedWorkspace).toUTF8 := by
  have hmodel : Relation.EqvGen (Json.Edits Model.workspaceEnvelope.shapes) plainWorkspace
      editedWorkspace := edits_plainWorkspace (by decide) (by decide)
  have hreply : Relation.EqvGen (Json.Edits Reply.workspace.shapes) plainWorkspace
      editedWorkspace := edits_plainWorkspace (by decide) (by decide)
  have hplain : Json.decode? (Json.compact plainWorkspace).toUTF8 = some plainWorkspace :=
    Json.decode?_compact (by simp [plainWorkspace, Json.IsLegible, Json.HasLegible]) (by decide)
  have hedited : Json.decode? (Json.compact editedWorkspace).toUTF8 = some editedWorkspace :=
    Json.decode?_compact (by simp [editedWorkspace, Json.IsLegible, Json.HasLegible]) (by decide)
  refine ⟨(readings_withstand_edits.1 _ _ _ hmodel).1, ?_⟩
  exact (readings_withstand_edits.2 _ _ _ hreply).2 _ _ hplain hedited

end WorkspaceWatch
