/-
**Bindings by name.**

A settings file binds names one after another, and a value may have the names bound so far in it.
Only the names that stand in a value are looked at when it is expanded.  So the bindings under some
names can be told from the rest of the file: they are what the file would bind if it held nothing
else, as long as none of their values has another name in it.

Main definitions:

* `WorkspaceWatch.SettingsFile.mentions` — the names that stand in a value;
* `WorkspaceWatch.SettingsFile.IsClosed` — no value under one of some names has another name in it.

Main results:

* `WorkspaceWatch.Json.lookup_insert`, `WorkspaceWatch.Json.lookup_unique` — the last entry of a key
  decides;
* `WorkspaceWatch.SettingsFile.expand_congr` — **only the names that stand in a value are read**;
* `WorkspaceWatch.SettingsFile.filter_foldl_bindNext` — **names are bound apart from the others**.
-/

import Mathlib.Data.List.Induction
import WorkspaceWatch.Settings.SettingsFile

set_option autoImplicit false

namespace WorkspaceWatch

/-! ### Entries by key -/

namespace Json

section Entries

variable {α : Type}

theorem lookup_cons_ite (l n : String) (w : α) (entries : List (String × α)) :
    ((l, w) :: entries).lookup n = if n = l then some w else entries.lookup n := by
  by_cases h : n = l
  · simp [h]
  · rw [List.lookup_cons, beq_false_of_ne h, if_neg h]

/-- What replaces the entries of a key is not found under another one. -/
theorem lookup_replaced_of_ne {k n : String} (h : n ≠ k) (v : α) (entries : List (String × α)) :
    (entries.map fun e => if e.1 = k then (k, v) else e).lookup n = entries.lookup n := by
  induction entries with
  | nil => rfl
  | cons e entries ih =>
      obtain ⟨l, w⟩ := e
      rw [List.map_cons, lookup_cons_ite l n w]
      by_cases hl : l = k
      · rw [if_pos hl, lookup_cons_ite, ih, if_neg h, hl, if_neg h]
      · rw [if_neg hl, lookup_cons_ite, ih]

theorem lookup_replaced_self {k : String} (v : α) {entries : List (String × α)}
    (h : entries.any (·.1 == k) = true) :
    (entries.map fun e => if e.1 = k then (k, v) else e).lookup k = some v := by
  induction entries with
  | nil => cases h
  | cons e entries ih =>
      obtain ⟨l, w⟩ := e
      rw [List.map_cons]
      by_cases hl : l = k
      · rw [if_pos hl, lookup_cons_ite, if_pos rfl]
      · have hmore : entries.any (·.1 == k) = true := by simpa [hl] using h
        rw [if_neg hl, lookup_cons_ite, if_neg (Ne.symm hl), ih hmore]

theorem lookup_append_new {k : String} (n : String) (v : α) {entries : List (String × α)}
    (h : ¬entries.any (·.1 == k) = true) :
    (entries ++ [(k, v)]).lookup n = if n = k then some v else entries.lookup n := by
  rw [List.lookup_append, lookup_cons_ite, List.lookup_nil]
  by_cases hn : n = k
  · have hnone : entries.lookup n = none := by
      rw [List.lookup_eq_none_iff]
      intro e he
      rw [bne_iff_ne, hn]
      rintro rfl
      exact h (List.any_eq_true.2 ⟨e, he, beq_self_eq_true _⟩)
    rw [if_pos hn, if_pos hn, hnone, Option.none_or]
  · rw [if_neg hn, if_neg hn, Option.or_none]

/-- An entry that is added or replaced is the one found under its key, and under no other. -/
theorem lookup_insert (entries : List (String × α)) (k n : String) (v : α) :
    (insert entries k v).lookup n = if n = k then some v else entries.lookup n := by
  unfold insert
  split
  next hany =>
    by_cases hn : n = k
    · rw [if_pos hn, hn, lookup_replaced_self v hany]
    · rw [if_neg hn, lookup_replaced_of_ne hn]
  next hany => exact lookup_append_new n v hany

theorem unique_append_singleton (entries : List (String × α)) (e : String × α) :
    unique (entries ++ [e]) = insert (unique entries) e.1 e.2 := by
  simp [unique, List.foldl_append]

/-- **The last entry of a key decides.** -/
theorem lookup_unique (entries : List (String × α)) (n : String) :
    (unique entries).lookup n = (entries.filter (·.1 == n)).getLast?.map Prod.snd := by
  induction entries using List.reverseRecOn with
  | nil => rfl
  | append_singleton entries e ih =>
      rw [unique_append_singleton, lookup_insert, ih, List.filter_append]
      by_cases hn : n = e.1
      · simp [hn]
      · simp [hn, Ne.symm hn]

theorem mem_insert {k : String} {v : α} {e : String × α} {entries : List (String × α)}
    (h : e ∈ insert entries k v) : e = (k, v) ∨ e ∈ entries ∧ e.1 ≠ k := by
  unfold insert at h
  split at h
  next =>
    obtain ⟨x, hx, rfl⟩ := List.mem_map.1 h
    by_cases hk : x.1 = k
    · exact .inl (if_pos hk)
    · rw [if_neg hk]
      exact .inr ⟨hx, hk⟩
  next hnew =>
    rw [List.mem_append, List.mem_singleton] at h
    refine h.symm.imp id fun hmem => ⟨hmem, fun hk => hnew ?_⟩
    exact List.any_eq_true.2 ⟨e, hmem, beq_iff_eq.2 hk⟩

/-- Among unique entries, each is the one found under its key. -/
theorem mem_unique_iff (entries : List (String × α)) (n : String) (v : α) :
    (n, v) ∈ unique entries ↔ (unique entries).lookup n = some v := by
  constructor
  · intro h
    induction entries using List.reverseRecOn with
    | nil => cases h
    | append_singleton entries e ih =>
        rw [unique_append_singleton] at h ⊢
        rw [lookup_insert]
        obtain hnew | ⟨hmem, hne⟩ := mem_insert h
        · cases hnew
          exact if_pos rfl
        · rw [if_neg hne]
          exact ih hmem
  · intro h
    obtain ⟨before, after, hsplit, -⟩ := List.lookup_eq_some_iff.1 h
    rw [hsplit]
    exact List.mem_append_right _ (List.mem_cons_self ..)

variable {keep : String → Bool}

theorem lookup_filter {n : String} (h : keep n = true) (entries : List (String × α)) :
    (entries.filter fun e => keep e.1).lookup n = entries.lookup n := by
  induction entries with
  | nil => rfl
  | cons e entries ih =>
      obtain ⟨l, w⟩ := e
      rw [List.filter_cons]
      by_cases hl : keep l = true
      · rw [if_pos hl, lookup_cons_ite, lookup_cons_ite, ih]
      · have hn : n ≠ l := by
          rintro rfl
          exact hl h
        rw [if_neg hl, lookup_cons_ite, if_neg hn, ih]

/-- A key that is kept is looked up among the entries that are kept. -/
theorem lookup_eq_of_filter_eq {entries entries' : List (String × α)} {n : String}
    (h : (entries'.filter fun e => keep e.1) = entries.filter fun e => keep e.1)
    (hn : keep n = true) : entries'.lookup n = entries.lookup n := by
  rw [← lookup_filter hn entries', h, lookup_filter hn]

/-- An entry that is kept is added to those that are kept. -/
theorem filter_insert_of_keep {k : String} (h : keep k = true) (entries : List (String × α)) (v : α) :
    (insert entries k v).filter (fun e => keep e.1) =
      insert (entries.filter fun e => keep e.1) k v := by
  have hany : (entries.filter fun e => keep e.1).any (·.1 == k) = entries.any (·.1 == k) := by
    rw [List.any_filter]
    congr 1
    funext e
    by_cases hk : e.1 = k
    · simp [hk, h]
    · simp [hk]
  unfold insert
  rw [hany]
  split
  · rw [List.filter_map]
    congr 1
    refine List.filter_congr fun e _ => ?_
    by_cases hk : e.1 = k
    · simp [hk, h]
    · simp [hk]
  · simp [List.filter_append, h]

theorem filter_replaced {k : String} (h : keep k = false) (v : α) (entries : List (String × α)) :
    (entries.map fun e => if e.1 = k then (k, v) else e).filter (fun e => keep e.1) =
      entries.filter fun e => keep e.1 := by
  induction entries with
  | nil => rfl
  | cons e entries ih =>
      rw [List.map_cons, List.filter_cons, List.filter_cons, ih]
      by_cases hk : e.1 = k
      · simp [hk, h]
      · simp [hk]

/-- Any other entry makes no difference to those that are kept. -/
theorem filter_insert_of_not_keep {k : String} (h : keep k = false) (entries : List (String × α))
    (v : α) :
    (insert entries k v).filter (fun e => keep e.1) = entries.filter fun e => keep e.1 := by
  unfold insert
  split
  · exact filter_replaced h v entries
  · simp [List.filter_append, h]

end Entries

end Json

namespace SettingsFile

/-! ### Names inside values -/

/-- The names that stand in a value, from some place on; as in its expansion, every character takes
at most one step of the fuel. -/
def mentionsFrom : Nat → List Char → List String
  | 0, _ => []
  | _, [] => []
  | fuel + 1, c :: rest =>
    match scanVariable? (c :: rest) with
    | some (name, _, after) => .ofList name :: mentionsFrom fuel after
    | none => mentionsFrom fuel rest

/-- The names that stand in a value. -/
def mentions (value : String) : List String := mentionsFrom value.toList.length value.toList

variable {look look' : String → Option (Option String)}

theorem expandFrom_congr (fuel : Nat) (cs : List Char)
    (h : ∀ n ∈ mentionsFrom fuel cs, look n = look' n) :
    expandFrom look fuel cs = expandFrom look' fuel cs := by
  induction fuel generalizing cs with
  | zero => simp [expandFrom]
  | succ fuel ih =>
      cases cs with
      | nil => simp [expandFrom]
      | cons c rest =>
          unfold mentionsFrom at h
          unfold expandFrom
          cases hscan : scanVariable? (c :: rest) with
          | none =>
              rw [hscan] at h
              simp only [ih rest h]
          | some found =>
              obtain ⟨name, standIn, after⟩ := found
              rw [hscan] at h
              simp only [h _ (List.mem_cons_self ..), ih after fun n hn => h n (List.mem_cons_of_mem _ hn)]

/-- **Only the names that stand in a value are read** when it is expanded. -/
theorem expand_congr {value : String} (h : ∀ n ∈ mentions value, look n = look' n) :
    expand look value = expand look' value := by
  rw [expand, expand, expandFrom_congr _ _ h]

/-! ### Bindings apart from the others -/

variable {keep : String → Bool} {environment environment' : List (String × String)}

/-- No value under a name that is kept has a name in it that is not. -/
def IsClosed (keep : String → Bool) (bindings : List (String × Option String)) : Prop :=
  ∀ b ∈ bindings, keep b.1 = true → ∀ v ∈ b.2, ∀ n ∈ mentions v, keep n = true

theorem IsClosed.of_cons {b : String × Option String} {bindings : List (String × Option String)}
    (h : IsClosed keep (b :: bindings)) : IsClosed keep bindings :=
  fun x hx => h x (List.mem_cons_of_mem _ hx)

/-- What a kept name stands for is told from the kept names. -/
theorem known_filter
    (henvironment : (environment'.filter fun e => keep e.1) = environment.filter fun e => keep e.1)
    (bound : List (String × Option String)) {n : String} (hn : keep n = true) :
    known environment' (bound.filter fun e => keep e.1) n = known environment bound n := by
  have hname := Json.lookup_eq_of_filter_eq henvironment hn
  simp only [known, Json.lookup_filter hn, hname]

/-- **Names are bound apart from the others**, and with what the environment has for them. -/
theorem filter_foldl_bindNext
    (henvironment : (environment'.filter fun e => keep e.1) = environment.filter fun e => keep e.1)
    {bindings : List (String × Option String)} (hclosed : IsClosed keep bindings)
    (bound : List (String × Option String)) :
    (bindings.foldl (bindNext environment) bound).filter (fun e => keep e.1) =
      (bindings.filter fun e => keep e.1).foldl (bindNext environment')
        (bound.filter fun e => keep e.1) := by
  induction bindings generalizing bound with
  | nil => rfl
  | cons b bindings ih =>
      rw [List.foldl_cons, ih hclosed.of_cons, List.filter_cons]
      cases hb : keep b.1 with
      | false => simp [bindNext, Json.filter_insert_of_not_keep hb]
      | true =>
          -- the value has only kept names in it, so it is expanded alike
          have hvalue : b.2.map (expand (known environment bound)) =
              b.2.map (expand (known environment' (bound.filter fun e => keep e.1))) := by
            refine Option.map_congr fun v hv => expand_congr fun n hn => ?_
            have hkept := hclosed b (List.mem_cons_self ..) hb v hv n hn
            exact (known_filter henvironment bound hkept).symm
          rw [if_pos rfl, List.foldl_cons, bindNext, Json.filter_insert_of_keep hb, hvalue]
          rfl

/-- **Names that stand in no value make no difference** to what is bound. -/
theorem foldl_bindNext_congr
    (henvironment : (environment'.filter fun e => keep e.1) = environment.filter fun e => keep e.1)
    {bindings : List (String × Option String)}
    (hmentions : ∀ b ∈ bindings, ∀ v ∈ b.2, ∀ n ∈ mentions v, keep n = true)
    (bound : List (String × Option String)) :
    bindings.foldl (bindNext environment') bound = bindings.foldl (bindNext environment) bound := by
  induction bindings generalizing bound with
  | nil => rfl
  | cons b bindings ih =>
      have hvalue : b.2.map (expand (known environment' bound)) =
          b.2.map (expand (known environment bound)) := by
        refine Option.map_congr fun v hv => expand_congr fun n hn => ?_
        have hkept := hmentions b (List.mem_cons_self ..) v hv n hn
        simp only [known, Json.lookup_eq_of_filter_eq henvironment hkept]
      rw [List.foldl_cons, List.foldl_cons, bindNext, hvalue]
      exact ih (fun x hx => hmentions x (List.mem_cons_of_mem _ hx)) _

end SettingsFile

end WorkspaceWatch
