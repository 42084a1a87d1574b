/-
**What is printed where there is no terminal.**

Off a terminal, texts are printed without their escape sequences.  A text without one is printed as
it is, and so is the text before the first; and since a sequence holds only a bracket, parameters
and one letter, no line end and no tab is lost with it, and no sequence goes on behind one.

Main definitions:

* `WorkspaceWatch.HasEscape` — there is an escape sequence in a text;
* `WorkspaceWatch.stopsEscape` — no escape sequence has a character in it;
* `WorkspaceWatch.shownChars` — the characters of a text as they are printed.

Main results:

* `WorkspaceWatch.exists_of_escapeLength?` — what an escape sequence is made of;
* `WorkspaceWatch.dropEscapes_eq_self_iff` — a text is printed as it is exactly if there is no escape
  sequence in it;
* `WorkspaceWatch.dropEscapes_append_cons` — **escape sequences do not reach over a character that
  stops them**;
* `WorkspaceWatch.printed_append` — what stands before the first escape sequence is printed as it is.
-/

import Mathlib.Data.List.TakeWhile
import WorkspaceWatch.CommandLine.Program
import WorkspaceWatch.Proofs.Segments

set_option autoImplicit false

namespace WorkspaceWatch

/-! ### One escape sequence -/

/-- What follows the first character of an escape sequence: a bracket, parameters and a letter. -/
theorem exists_of_escapeLength? {cs : List Char} {n : Nat} (h : escapeLength? cs = some n) :
    ∃ parameters letter rest, cs = '[' :: (parameters ++ letter :: rest) ∧
      (∀ p ∈ parameters, isEscapeParameter p = true) ∧ letter.isAlpha = true ∧
      n = parameters.length + 2 := by
  unfold escapeLength? at h
  split at h
  · next inner =>
    split at h
    · next letter rest hdrop =>
      split at h
      · next hletter =>
        refine ⟨inner.takeWhile isEscapeParameter, letter, rest, ?_, ?_, hletter,
          (Option.some.inj h).symm⟩
        · rw [← hdrop, List.takeWhile_append_dropWhile]
        · exact fun p hp => List.mem_takeWhile_imp hp
      · cases h
    · cases h
  · cases h

theorem le_length_of_escapeLength? {cs : List Char} {n : Nat} (h : escapeLength? cs = some n) :
    n ≤ cs.length := by
  obtain ⟨parameters, letter, rest, rfl, -, -, rfl⟩ := exists_of_escapeLength? h
  simp only [List.length_cons, List.length_append]
  omega

/-- No escape sequence has this character in it. -/
def stopsEscape (c : Char) : Bool :=
  c != escapeChar && c != '[' && !isEscapeParameter c && !c.isAlpha

section Stop

variable {stop : Char} (hstop : stopsEscape stop = true)
include hstop

theorem notMem_take_of_escapeLength? {cs : List Char} {n : Nat} (h : escapeLength? cs = some n) :
    stop ∉ cs.take n := by
  simp only [stopsEscape, Bool.and_eq_true, bne_iff_ne, ne_eq, Bool.not_eq_true'] at hstop
  obtain ⟨⟨⟨-, hbracket⟩, hparameter⟩, hletter⟩ := hstop
  obtain ⟨parameters, letter, rest, rfl, hall, halpha, rfl⟩ := exists_of_escapeLength? h
  have htake : ('[' :: (parameters ++ letter :: rest)).take (parameters.length + 2) =
      '[' :: (parameters ++ [letter]) := by
    simp [List.take_append, List.take_of_length_le]
  rw [htake]
  simp only [List.mem_cons, List.mem_append, List.not_mem_nil, or_false, not_or]
  refine ⟨hbracket, fun hmem => ?_, ?_⟩
  · rw [hall stop hmem] at hparameter
    cases hparameter
  · rintro rfl
    rw [halpha] at hletter
    cases hletter

/-- Whether an escape sequence follows is decided before a character that stops it. -/
theorem escapeLength?_append_cons (a b : List Char) :
    escapeLength? (a ++ stop :: b) = escapeLength? a := by
  simp only [stopsEscape, Bool.and_eq_true, bne_iff_ne, ne_eq, Bool.not_eq_true'] at hstop
  obtain ⟨⟨⟨-, hbracket⟩, hparameter⟩, hletter⟩ := hstop
  cases a with
  | nil => simp [escapeLength?, hbracket]
  | cons c a =>
      by_cases hc : c = '['
      · subst hc
        cases hdrop : a.dropWhile isEscapeParameter with
        | nil =>
            -- there are only parameters, and then the character that is no letter
            simp [escapeLength?, List.dropWhile_append, hdrop, hparameter, hletter]
        | cons letter rest =>
            have hlength : (a.takeWhile isEscapeParameter).length ≠ a.length := by
              intro hsame
              have hsplit := congrArg List.length
                (List.takeWhile_append_dropWhile (p := isEscapeParameter) (l := a))
              rw [List.length_append, hdrop, List.length_cons] at hsplit
              omega
            simp [escapeLength?, List.dropWhile_append, List.takeWhile_append, hdrop, hlength]
      · simp [escapeLength?, hc]

/-! ### Whole texts -/

/-- A character that stops escape sequences is not lost with one. -/
theorem count_dropEscapes {skip : Nat} {cs : List Char} (h : stop ∉ cs.take skip) :
    (dropEscapes skip cs).count stop = cs.count stop := by
  fun_induction dropEscapes skip cs with
  | case1 => rfl
  | case2 skip c rest ih =>
      rw [List.take_succ_cons, List.mem_cons, not_or] at h
      rw [ih h.2, List.count_cons_of_ne (Ne.symm h.1)]
  | case3 rest n hn ih =>
      have hne : escapeChar ≠ stop := by
        rintro rfl
        simp [stopsEscape] at hstop
      rw [ih (notMem_take_of_escapeLength? hstop hn), List.count_cons_of_ne hne]
  | case4 rest hnone ih => rw [List.count_cons, List.count_cons, ih (by simp)]
  | case5 c rest hne ih => rw [List.count_cons, List.count_cons, ih (by simp)]

/-- **Escape sequences do not reach over a character that stops them.** -/
theorem dropEscapes_append_cons {skip : Nat} {a : List Char} (h : skip ≤ a.length) (b : List Char) :
    dropEscapes skip (a ++ stop :: b) = dropEscapes skip a ++ stop :: dropEscapes 0 b := by
  fun_induction dropEscapes skip a with
  | case1 skip =>
      have hne : stop ≠ escapeChar := by
        rintro rfl
        simp [stopsEscape] at hstop
      obtain rfl : skip = 0 := by simpa using h
      simp [dropEscapes, hne]
  | case2 skip c rest ih =>
      rw [List.cons_append, dropEscapes]
      exact ih (by simpa using h)
  | case3 rest n hn ih =>
      rw [List.cons_append, dropEscapes, if_pos rfl, escapeLength?_append_cons hstop, hn]
      exact ih (le_length_of_escapeLength? hn)
  | case4 rest hnone ih =>
      rw [List.cons_append, dropEscapes, if_pos rfl, escapeLength?_append_cons hstop, hnone]
      exact congrArg _ (ih (Nat.zero_le _))
  | case5 c rest hne ih =>
      rw [List.cons_append, dropEscapes, if_neg hne]
      exact congrArg _ (ih (Nat.zero_le _))

theorem dropEscapes_joinWithMark (pieces : List (List Char)) :
    dropEscapes 0 (joinWithMark stop pieces) = joinWithMark stop (pieces.map (dropEscapes 0)) := by
  fun_induction joinWithMark stop pieces with
  | case1 => rfl
  | case2 piece => rfl
  | case3 piece next rest ih =>
      rw [dropEscapes_append_cons hstop (Nat.zero_le _), ih]
      rfl

end Stop

theorem length_dropEscapes_le (skip : Nat) (cs : List Char) :
    (dropEscapes skip cs).length ≤ cs.length := by
  fun_induction dropEscapes skip cs with
  | case1 => exact Nat.le_refl _
  | case2 _ _ _ ih | case3 _ _ _ ih => exact Nat.le_succ_of_le ih
  | case4 _ _ ih | case5 _ _ _ ih => exact Nat.succ_le_succ ih

/-- There is an escape sequence in a text. -/
def HasEscape (cs : List Char) : Prop :=
  ∃ before after, cs = before ++ escapeChar :: after ∧ (escapeLength? after).isSome

theorem hasEscape_cons_iff (c : Char) (cs : List Char) :
    HasEscape (c :: cs) ↔ (c = escapeChar ∧ (escapeLength? cs).isSome) ∨ HasEscape cs := by
  constructor
  · rintro ⟨before, after, hcs, hafter⟩
    cases before with
    | nil =>
        obtain ⟨rfl, rfl⟩ := List.cons.inj hcs
        exact .inl ⟨rfl, hafter⟩
    | cons _ before => exact .inr ⟨before, after, (List.cons.inj hcs).2, hafter⟩
  · rintro (⟨rfl, h⟩ | ⟨before, after, rfl, h⟩)
    · exact ⟨[], cs, rfl, h⟩
    · exact ⟨c :: before, after, rfl, h⟩

/-- **A text is printed as it is exactly if there is no escape sequence in it.** -/
theorem dropEscapes_eq_self_iff (cs : List Char) : dropEscapes 0 cs = cs ↔ ¬HasEscape cs := by
  induction cs with
  | nil => simp [dropEscapes, HasEscape]
  | cons c cs ih =>
      rw [hasEscape_cons_iff, dropEscapes, not_or, ← ih]
      by_cases hc : c = escapeChar
      · cases hn : escapeLength? cs with
        | none => simp [hc]
        | some n =>
            -- what is left is shorter
            have hlength := length_dropEscapes_le n cs
            simp only [hc, if_true, Option.isSome_some, and_self, not_true_eq_false, false_and,
              iff_false]
            intro hsame
            rw [hsame, List.length_cons] at hlength
            omega
      · simp [hc]

/-- A text without the character that begins escape sequences goes over into what follows. -/
theorem dropEscapes_append_of_notMem {a : List Char} (h : escapeChar ∉ a) (b : List Char) :
    dropEscapes 0 (a ++ b) = a ++ dropEscapes 0 b := by
  induction a with
  | nil => rfl
  | cons c a ih =>
      rw [List.mem_cons, not_or] at h
      rw [List.cons_append, dropEscapes, if_neg (Ne.symm h.1), ih h.2, List.cons_append]

/-! ### Printing -/

/-- The characters of a text as they are printed. -/
def shownChars (onTerminal : Bool) (cs : List Char) : List Char :=
  if onTerminal then cs else dropEscapes 0 cs

theorem shownChars_eq_self_iff (onTerminal : Bool) (cs : List Char) :
    shownChars onTerminal cs = cs ↔ (onTerminal = false → ¬HasEscape cs) := by
  cases onTerminal with
  | true => simp [shownChars]
  | false => simpa [shownChars] using dropEscapes_eq_self_iff cs

/-- A character that stops escape sequences is printed. -/
theorem count_shownChars {stop : Char} (hstop : stopsEscape stop = true) (onTerminal : Bool)
    (cs : List Char) : (shownChars onTerminal cs).count stop = cs.count stop := by
  cases onTerminal with
  | true => rfl
  | false => exact count_dropEscapes hstop (by simp)

theorem mem_shownChars_iff {stop : Char} (hstop : stopsEscape stop = true) (onTerminal : Bool)
    (cs : List Char) : stop ∈ shownChars onTerminal cs ↔ stop ∈ cs := by
  rw [← List.count_pos_iff, count_shownChars hstop, List.count_pos_iff]

/-- Pieces with a mark between them that stops escape sequences are printed one by one. -/
theorem shownChars_joinWithMark {stop : Char} (hstop : stopsEscape stop = true)
    (onTerminal : Bool) (pieces : List (List Char)) :
    shownChars onTerminal (joinWithMark stop pieces) =
      joinWithMark stop (pieces.map (shownChars onTerminal)) := by
  cases onTerminal with
  | true =>
      have hmap : pieces.map (shownChars true) = pieces := List.map_id'' (fun _ => rfl) pieces
      rw [hmap]
      rfl
  | false => exact dropEscapes_joinWithMark hstop pieces

theorem toList_printed (onTerminal : Bool) (s : String) :
    (printed onTerminal s).toList = shownChars onTerminal s.toList := by
  cases onTerminal <;> simp [printed, withoutEscapes, shownChars]

/-- What stands before the first escape sequence is printed as it is. -/
theorem printed_append {a : String} (h : escapeChar ∉ a.toList) (onTerminal : Bool) (b : String) :
    printed onTerminal (a ++ b) = a ++ printed onTerminal b := by
  apply String.toList_injective
  rw [String.toList_append, toList_printed, toList_printed, String.toList_append]
  cases onTerminal with
  | true => rfl
  | false => exact dropEscapes_append_of_notMem h b.toList

/-- A text without the character that begins escape sequences is printed as it is. -/
theorem printed_of_notMem {s : String} (h : escapeChar ∉ s.toList) (onTerminal : Bool) :
    printed onTerminal s = s := by
  have hempty : printed onTerminal "" = "" := by cases onTerminal <;> rfl
  have happend := printed_append h onTerminal ""
  rwa [hempty, String.append_empty] at happend

end WorkspaceWatch
