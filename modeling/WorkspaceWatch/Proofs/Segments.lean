/-
**The segments of a path.**

Bringing a path into its final form takes dot segments out of it, and with two dots the segment
before them.  Nothing is ever added, so the segments of the result stand for fewer characters than
those of the path, unless it had no dot segments; then it is not changed.

Main definitions:

* `WorkspaceWatch.isDots` — a segment is a dot segment;
* `WorkspaceWatch.total` — the sizes of segments together, with one more for each;
* `WorkspaceWatch.spelledLength` — the total of what segments stand for.

Main results:

* `WorkspaceWatch.splitAtMark_percentEncode` — escaping goes segment by segment;
* `WorkspaceWatch.Url.removeDots_of_not_isDots` — **a path without dot segments is not changed**;
* `WorkspaceWatch.Url.spelledLength_removeDots_le` — **each dot segment costs the path something**;
* `WorkspaceWatch.spelledLength_percentEncode` — escaped segments stand for no more than the text
  that was escaped, and for less if it has escapes.
-/

import WorkspaceWatch.Proofs.Percent
import WorkspaceWatch.Url.Parser

set_option autoImplicit false

namespace WorkspaceWatch

/-! ### Sizes -/

/-- The sizes of segments together, with one more for each. -/
def total (size : List Char → Nat) : List (List Char) → Nat
  | [] => 0
  | s :: segments => size s + 1 + total size segments

section Total

variable (size : List Char → Nat)

@[simp] theorem total_nil : total size [] = 0 := rfl

@[simp] theorem total_cons (s : List Char) (segments : List (List Char)) :
    total size (s :: segments) = size s + 1 + total size segments := rfl

@[simp] theorem total_append (ss ts : List (List Char)) :
    total size (ss ++ ts) = total size ss + total size ts := by
  induction ss with
  | nil => simp
  | cons s ss ih =>
      simp only [List.cons_append, total_cons, ih]
      omega

@[simp] theorem total_reverse (ss : List (List Char)) : total size ss.reverse = total size ss := by
  induction ss with
  | nil => rfl
  | cons s ss ih =>
      simp only [List.reverse_cons, total_append, total_cons, total_nil, ih]
      omega

theorem total_map (f : List Char → List Char) (ss : List (List Char)) :
    total size (ss.map f) = total (fun s => size (f s)) ss := by
  induction ss with
  | nil => rfl
  | cons s ss ih => rw [List.map_cons, total_cons, total_cons, ih]

end Total

/-! ### Cutting and joining -/

theorem splitAtMark_cons_mark (mark : Char) (cs : List Char) :
    splitAtMark mark (mark :: cs) = [] :: splitAtMark mark cs :=
  splitAtMark_append_mark mark [] cs (by simp)

theorem splitAtMark_cons_of_ne {mark c : Char} (h : c ≠ mark) (cs : List Char) :
    ∃ piece pieces, splitAtMark mark cs = piece :: pieces ∧
      splitAtMark mark (c :: cs) = (c :: piece) :: pieces := by
  cases hcs : splitAtMark mark cs with
  | nil => exact absurd hcs (splitAtMark_ne_nil mark cs)
  | cons piece pieces =>
      refine ⟨piece, pieces, rfl, ?_⟩
      rw [splitAtMark, hcs]
      simp [h]

/-- The pieces of two texts with a mark between them. -/
theorem splitAtMark_append (mark : Char) (cs ds : List Char) :
    splitAtMark mark (cs ++ mark :: ds) = splitAtMark mark cs ++ splitAtMark mark ds := by
  induction cs with
  | nil =>
      rw [List.nil_append, splitAtMark_cons_mark]
      rfl
  | cons c cs ih =>
      by_cases hc : c = mark
      · subst hc
        rw [List.cons_append, splitAtMark_cons_mark, splitAtMark_cons_mark, ih, List.cons_append]
      · obtain ⟨piece, pieces, hp, hcs⟩ := splitAtMark_cons_of_ne hc cs
        obtain ⟨piece', pieces', hp', hcs'⟩ := splitAtMark_cons_of_ne hc (cs ++ mark :: ds)
        rw [ih, hp, List.cons_append] at hp'
        obtain ⟨rfl, rfl⟩ := List.cons.inj hp'
        rw [List.cons_append, hcs', hcs, List.cons_append]

/-- A change of characters that makes no mark and spoils none is made in each piece. -/
theorem splitAtMark_map {mark : Char} {f : Char → Char} (hf : ∀ c, f c = mark ↔ c = mark)
    (cs : List Char) : splitAtMark mark (cs.map f) = (splitAtMark mark cs).map (List.map f) := by
  induction cs with
  | nil => rfl
  | cons c cs ih =>
      by_cases hc : c = mark
      · rw [List.map_cons, (hf c).2 hc, hc, splitAtMark_cons_mark, splitAtMark_cons_mark, ih]
        rfl
      · obtain ⟨piece, pieces, hp, hcs⟩ := splitAtMark_cons_of_ne hc cs
        obtain ⟨piece', pieces', hp', hcs'⟩ :=
          splitAtMark_cons_of_ne (fun h => hc ((hf c).1 h)) (cs.map f)
        rw [ih, hp, List.map_cons] at hp'
        obtain ⟨rfl, rfl⟩ := List.cons.inj hp'
        rw [List.map_cons, hcs', hcs, List.map_cons, List.map_cons]

/-- No piece has the mark in it. -/
theorem notMem_of_mem_splitAtMark {mark : Char} {cs piece : List Char}
    (h : piece ∈ splitAtMark mark cs) : mark ∉ piece := by
  induction cs generalizing piece with
  | nil =>
      rw [splitAtMark, List.mem_singleton] at h
      simp [h]
  | cons c cs ih =>
      by_cases hc : c = mark
      · subst hc
        rw [splitAtMark_cons_mark, List.mem_cons] at h
        rcases h with rfl | h
        · simp
        · exact ih h
      · obtain ⟨first, pieces, hp, hcs⟩ := splitAtMark_cons_of_ne hc cs
        rw [hcs, List.mem_cons] at h
        rcases h with rfl | h
        · have hfirst : mark ∉ first := ih (by simp [hp])
          simp [hfirst, Ne.symm hc]
        · exact ih (by simp [hp, h])

/-- What is in a piece is in the text. -/
theorem mem_of_mem_splitAtMark {mark : Char} {cs piece : List Char}
    (h : piece ∈ splitAtMark mark cs) {x : Char} (hx : x ∈ piece) : x ∈ cs := by
  induction cs generalizing piece with
  | nil =>
      rw [splitAtMark, List.mem_singleton] at h
      simp [h] at hx
  | cons c cs ih =>
      by_cases hc : c = mark
      · subst hc
        rw [splitAtMark_cons_mark, List.mem_cons] at h
        rcases h with rfl | h
        · cases hx
        · exact List.mem_cons_of_mem c (ih h hx)
      · obtain ⟨first, pieces, hp, hcs⟩ := splitAtMark_cons_of_ne hc cs
        rw [hcs, List.mem_cons] at h
        rcases h with rfl | h
        · rcases List.mem_cons.1 hx with rfl | hx
          · exact List.mem_cons_self
          · exact List.mem_cons_of_mem c (ih (by simp [hp]) hx)
        · exact List.mem_cons_of_mem c (ih (by simp [hp, h]) hx)

/-- A text is cut at its first mark. -/
theorem takeWhile_append_cons {mark : Char} {cs : List Char} (h : mark ∉ cs) (ds : List Char) :
    (cs ++ mark :: ds).takeWhile (· != mark) = cs ∧
      (cs ++ mark :: ds).dropWhile (· != mark) = mark :: ds := by
  have hne : ∀ c ∈ cs, (c != mark) = true := by
    intro c hc
    rw [bne_iff_ne]
    rintro rfl
    exact h hc
  rw [List.takeWhile_append_of_pos hne, List.dropWhile_append_of_pos hne]
  simp

/-- What is in the text and no mark is in a piece. -/
theorem exists_mem_splitAtMark {mark : Char} {cs : List Char} {x : Char} (hx : x ∈ cs)
    (hne : x ≠ mark) : ∃ piece ∈ splitAtMark mark cs, x ∈ piece := by
  induction cs with
  | nil => cases hx
  | cons c cs ih =>
      by_cases hc : c = mark
      · subst hc
        have hmem : x ∈ cs := (List.mem_cons.1 hx).resolve_left hne
        obtain ⟨piece, hpiece, hin⟩ := ih hmem
        refine ⟨piece, ?_, hin⟩
        rw [splitAtMark_cons_mark]
        exact List.mem_cons_of_mem [] hpiece
      · obtain ⟨first, pieces, hp, hcs⟩ := splitAtMark_cons_of_ne hc cs
        rw [hcs]
        rcases List.mem_cons.1 hx with rfl | hmem
        · exact ⟨x :: first, List.mem_cons_self, List.mem_cons_self⟩
        · obtain ⟨piece, hpiece, hin⟩ := ih hmem
          rw [hp] at hpiece
          rcases List.mem_cons.1 hpiece with rfl | hpiece
          · exact ⟨c :: piece, List.mem_cons_self, List.mem_cons_of_mem c hin⟩
          · exact ⟨piece, List.mem_cons_of_mem _ hpiece, hin⟩

/-- There is one piece more than there are marks. -/
theorem length_splitAtMark (mark : Char) (cs : List Char) :
    (splitAtMark mark cs).length = cs.count mark + 1 := by
  induction cs with
  | nil => rfl
  | cons c cs ih =>
      by_cases hc : c = mark
      · subst hc
        rw [splitAtMark_cons_mark, List.length_cons, ih, List.count_cons_self]
      · obtain ⟨piece, pieces, hp, hcs⟩ := splitAtMark_cons_of_ne hc cs
        rw [hp] at ih
        rw [hcs, List.count_cons_of_ne hc, ← ih]
        rfl

/-- The pieces and the marks between them make up the text. -/
theorem total_length_splitAtMark (mark : Char) (cs : List Char) :
    total List.length (splitAtMark mark cs) = cs.length + 1 := by
  induction cs with
  | nil => rfl
  | cons c cs ih =>
      by_cases hc : c = mark
      · subst hc
        rw [splitAtMark_cons_mark, total_cons, ih]
        simp only [List.length_nil, List.length_cons]
        omega
      · obtain ⟨piece, pieces, hp, hcs⟩ := splitAtMark_cons_of_ne hc cs
        rw [hp, total_cons] at ih
        rw [hcs, total_cons, List.length_cons, List.length_cons]
        omega

theorem length_joinWithMark (mark : Char) {pieces : List (List Char)} (hne : pieces ≠ []) :
    (joinWithMark mark pieces).length + 1 = total List.length pieces := by
  induction pieces with
  | nil => exact absurd rfl hne
  | cons piece rest ih =>
      cases rest with
      | nil => simp [joinWithMark]
      | cons next more =>
          rw [joinWithMark, total_cons, ← ih (by simp), List.length_append,
            List.length_cons]
          omega

theorem percentEncode_joinWithMark {keep : Char → Bool} {mark : Char} (hmark : keep mark = true)
    (pieces : List (List Char)) :
    percentEncode keep (joinWithMark mark pieces) =
      joinWithMark mark (pieces.map (percentEncode keep)) := by
  induction pieces with
  | nil => rfl
  | cons piece rest ih =>
      cases rest with
      | nil => rfl
      | cons next more =>
          rw [joinWithMark, percentEncode_append, percentEncode_cons_of_keep hmark, ih]
          rfl

/-- **Escaping goes piece by piece**, if the mark is kept and has no part in escapes. -/
theorem splitAtMark_percentEncode {keep : Char → Bool} {mark : Char} (hmark : keep mark = true)
    (hplain : mark ≠ '%' ∧ hexDigitValue? mark = none) (cs : List Char) :
    splitAtMark mark (percentEncode keep cs) =
      (splitAtMark mark cs).map (percentEncode keep) := by
  have hpieces : ∀ piece ∈ (splitAtMark mark cs).map (percentEncode keep), mark ∉ piece := by
    intro piece h hmem
    obtain ⟨raw, hraw, rfl⟩ := List.mem_map.1 h
    simp only [percentEncode, List.mem_flatMap] at hmem
    obtain ⟨c, hc, hx⟩ := hmem
    split at hx
    · rw [List.mem_singleton] at hx
      exact notMem_of_mem_splitAtMark hraw (hx ▸ hc)
    · rcases mem_percentChar hx with rfl | hx
      · exact hplain.1 rfl
      · simp [hplain.2] at hx
  have hne : (splitAtMark mark cs).map (percentEncode keep) ≠ [] := by
    simp [splitAtMark_ne_nil]
  rw [← splitAtMark_joinWithMark mark _ hne hpieces, ← percentEncode_joinWithMark hmark,
    joinWithMark_splitAtMark]

/-! ### What segments stand for -/

/-- How many characters segments stand for, with one more for each. -/
def spelledLength (segments : List (List Char)) : Nat :=
  total (fun s => (percentDecode s).length) segments

/-- Segments stand for no more than they are, and for less if one of them has an escape. -/
theorem spelledLength_bounds (segments : List (List Char)) :
    spelledLength segments ≤ total List.length segments ∧
      ((∃ s ∈ segments, hasEscape s = true) →
        spelledLength segments < total List.length segments) := by
  unfold spelledLength
  induction segments with
  | nil => simp
  | cons s segments ih =>
      simp only [total_cons, List.mem_cons]
      have hs := length_percentDecode_le s
      refine ⟨by omega, ?_⟩
      rintro ⟨s', rfl | h, he⟩
      · have hlt := length_percentDecode_lt he
        omega
      · have hlt := ih.2 ⟨s', h, he⟩
        omega

/-- **Escaped segments stand for no more than the text that was escaped**, and for less if one of
its segments has an escape. -/
theorem spelledLength_percentEncode {keep : Char → Bool} (hkeep : KeepsEscapes keep) (mark : Char)
    (hmark : keep mark = true) (hplain : mark ≠ '%' ∧ hexDigitValue? mark = none) (cs : List Char) :
    spelledLength (splitAtMark mark (percentEncode keep cs)) ≤ cs.length + 1 ∧
      ((∃ s ∈ splitAtMark mark cs, hasEscape s = true) →
        spelledLength (splitAtMark mark (percentEncode keep cs)) < cs.length + 1) := by
  have hspelled : spelledLength (splitAtMark mark (percentEncode keep cs)) =
      spelledLength (splitAtMark mark cs) := by
    rw [splitAtMark_percentEncode hmark hplain, spelledLength, total_map]
    simp only [percentDecode_percentEncode hkeep, spelledLength]
  rw [hspelled, ← total_length_splitAtMark mark]
  exact spelledLength_bounds _

/-! ### Dot segments -/

/-- Whether a segment is a dot segment. -/
def isDots (segment : List Char) : Bool :=
  segment = ['.'] || segment = ['.', '.']

namespace Url

/-- Segments before the first dot segment stay, unless a later one takes them along. -/
theorem removeDots_append {ss : List (List Char)} (h : ∀ s ∈ ss, isDots s = false)
    (done ts : List (List Char)) :
    removeDots done (ss ++ ts) = removeDots (ss.reverse ++ done) ts := by
  induction ss generalizing done with
  | nil => rfl
  | cons s ss ih =>
      have hs := h s (by simp)
      simp only [isDots, Bool.or_eq_false_iff, decide_eq_false_iff_not] at hs
      rw [List.cons_append, removeDots, if_neg hs.1, if_neg hs.2,
        ih fun s' hs' => h s' (by simp [hs'])]
      simp

/-- **A path without dot segments is not changed.** -/
theorem removeDots_of_not_isDots {ss : List (List Char)} (h : ∀ s ∈ ss, isDots s = false)
    (done : List (List Char)) : removeDots done ss = done.reverse ++ ss := by
  have happend := removeDots_append h done []
  rw [List.append_nil] at happend
  simp [happend, removeDots]

/-- **Each dot segment costs the path something.** -/
theorem spelledLength_removeDots_le (done ss : List (List Char)) :
    spelledLength (removeDots done ss) + ss.countP isDots ≤
      spelledLength done + spelledLength ss := by
  -- the segments done so far are counted as well, since two dots take one of them back
  unfold spelledLength
  induction ss generalizing done with
  | nil => simp [removeDots]
  | cons s ss ih =>
      have hcount : (if isDots s = true then 1 else 0) ≤ 1 := by
        split
        · exact Nat.le_refl 1
        · exact Nat.zero_le 1
      rw [removeDots, List.countP_cons, total_cons]
      split
      · have hdone := ih done
        omega
      · split
        · have hdone := ih (if done = [[]] then done else done.drop 1)
          have hle : total (fun s => (percentDecode s).length)
              (if done = [[]] then done else done.drop 1) ≤
                total (fun s => (percentDecode s).length) done := by
            split
            · exact Nat.le_refl _
            · cases done with
              | nil => simp
              | cons last before => simp
          omega
        · next hone htwo =>
          have hdone := ih (s :: done)
          have hs : isDots s = false := by simp [isDots, hone, htwo]
          rw [total_cons] at hdone
          rw [if_neg (by simp [hs])]
          omega

/-- No dot segment is left. -/
theorem isDots_of_mem_removeDots {done ss : List (List Char)} (hdone : ∀ s ∈ done, isDots s = false)
    {s : List Char} (h : s ∈ removeDots done ss) : isDots s = false := by
  induction ss generalizing done with
  | nil =>
      rw [removeDots, List.mem_reverse] at h
      exact hdone s h
  | cons t ss ih =>
      rw [removeDots] at h
      split at h
      · exact ih hdone h
      · split at h
        · refine ih ?_ h
          intro s' hs'
          split at hs'
          · exact hdone s' hs'
          · exact hdone s' (List.mem_of_mem_drop hs')
        · next hone htwo =>
          refine ih ?_ h
          intro s' hs'
          rcases List.mem_cons.1 hs' with rfl | hs'
          · simp [isDots, hone, htwo]
          · exact hdone s' hs'

/-- What is left was there. -/
theorem mem_of_mem_removeDots {done ss : List (List Char)} {s : List Char}
    (h : s ∈ removeDots done ss) : s ∈ done ∨ s ∈ ss := by
  induction ss generalizing done with
  | nil =>
      rw [removeDots, List.mem_reverse] at h
      exact .inl h
  | cons t ss ih =>
      rw [removeDots] at h
      split at h
      · exact (ih h).imp_right (List.mem_cons_of_mem t)
      · split at h
        · rcases ih h with hs | hs
          · split at hs
            · exact .inl hs
            · exact .inl (List.mem_of_mem_drop hs)
          · exact .inr (List.mem_cons_of_mem t hs)
        · rcases ih h with hs | hs
          · rcases List.mem_cons.1 hs with rfl | hs
            · exact .inr (by simp)
            · exact .inl hs
          · exact .inr (List.mem_cons_of_mem t hs)

/-- **Segments behind others without dots lose nothing only if they have no dots themselves.** -/
theorem eq_of_removeDots_append {ss ts us : List (List Char)} (hss : ∀ s ∈ ss, isDots s = false)
    (h : removeDots [] (ss ++ ts) = ss ++ us) (hle : spelledLength ts ≤ spelledLength us) :
    ts = us ∧ ∀ t ∈ ts, isDots t = false := by
  rw [removeDots_append hss, List.append_nil] at h
  have hbound := spelledLength_removeDots_le ss.reverse ts
  rw [h] at hbound
  simp only [spelledLength, total_append, total_reverse] at hbound hle
  have hcount : ts.countP isDots = 0 := by omega
  have hts : ∀ t ∈ ts, isDots t = false := by
    intro t ht
    simpa using List.countP_eq_zero.1 hcount t ht
  rw [removeDots_of_not_isDots hts, List.reverse_reverse] at h
  exact ⟨List.append_cancel_left h, hts⟩

end Url

end WorkspaceWatch
