/-
**Loggers above and below one another.**

The logger above another is found by cutting the name at a dot, and its level counts if the lower one
has none.  So a logger without a level has that of the first logger above it that has one, and in the
end that of the root.  A logger stands below another only if its name goes on from the other's with a
dot; the converse holds unless two dots stand side by side in the name.

Main definitions:

* `WorkspaceWatch.Loggers.IsBelow` — a logger stands below another, or is the same;
* `WorkspaceWatch.Loggers.GoesOn` — a name is another's, or goes on from it with a dot.

Main results:

* `WorkspaceWatch.Loggers.effectiveLevel_eq` — a level is taken from the nearest logger above;
* `WorkspaceWatch.Loggers.effectiveLevel_of_isBelow`, `WorkspaceWatch.Loggers.effectiveLevel_of_free`
  — **the level of a logger is decided by the loggers that it stands below**;
* `WorkspaceWatch.Loggers.isBelow_iff_goesOn` — **names without neighbouring dots tell where loggers
  stand**.
-/

import Mathlib.Data.List.Induction
import WorkspaceWatch.Logging.Loggers

set_option autoImplicit false

namespace WorkspaceWatch

namespace Loggers

variable {ls : Loggers} {name other top : String}

/-! ### The nearest logger above -/

theorem written?_eq_some_iff {cs : List Char} :
    ls.written? cs = some name ↔ name ∈ ls.names ∧ name.toList.reverse = cs := by
  simp only [written?]
  constructor
  · intro h
    obtain rfl : name = .ofList cs.reverse := by simpa using List.find?_some h
    exact ⟨List.mem_of_find?_eq_some h, by simp⟩
  · rintro ⟨hmem, rfl⟩
    have hname : String.ofList name.toList.reverse.reverse = name := by simp
    rw [hname]
    cases hfind : ls.names.find? (· == name) with
    | none => exact absurd (List.find?_eq_none.1 hfind name hmem) (by simp)
    | some found =>
        obtain rfl : found = name := by simpa using List.find?_some hfind
        rfl

/-- The level at a point in a name is that of the nearest logger above it. -/
theorem levelFrom_eq (ls : Loggers) (cs : List Char) :
    ls.levelFrom cs = (ls.aboveFrom? cs).elim ls.root ls.effectiveLevel := by
  fun_induction levelFrom ls cs with
  | case1 d rest above habove ih =>
      -- the logger that is written there goes on with what is written above it
      have hname := (written?_eq_some_iff.1 habove).2
      simp only [aboveFrom?, habove, if_true, Option.some_or, Option.elim_some, effectiveLevel,
        hname]
  | case2 d rest hnone ih => simp only [aboveFrom?, hnone, if_true, Option.none_or, ih]
  | case3 c d rest hc ih => simp only [aboveFrom?, if_neg hc, ih]
  | case4 cs hcs => simp only [aboveFrom?, Option.elim_none]

/-- **A level is taken from the nearest logger above**, and in the end from the root. -/
theorem effectiveLevel_eq (ls : Loggers) (name : String) :
    ls.effectiveLevel name =
      (ls.ownLevel? name).getD ((ls.above? name).elim ls.root ls.effectiveLevel) := by
  rw [effectiveLevel, levelFrom_eq]
  rfl

/-- What stands above a point in a name is the name of a logger up to a dot. -/
theorem exists_of_aboveFrom? {cs : List Char} (h : ls.aboveFrom? cs = some name) :
    ∃ front, cs = front ++ '.' :: name.toList.reverse := by
  fun_induction aboveFrom? ls cs with
  | case1 d rest ih =>
      rcases Option.or_eq_some_iff.1 h with hwritten | ⟨-, hrest⟩
      · exact ⟨[], by rw [(written?_eq_some_iff.1 hwritten).2]; rfl⟩
      · obtain ⟨front, rfl⟩ := ih hrest
        exact ⟨'.' :: d :: front, rfl⟩
  | case2 c d rest hc ih =>
      obtain ⟨front, hfront⟩ := ih h
      exact ⟨c :: front, by rw [hfront]; rfl⟩
  | case3 cs hcs => cases h

/-- A name goes on from the name of the logger above it with a dot. -/
theorem prefix_of_above? (h : ls.above? name = some other) :
    other.toList ++ ['.'] <+: name.toList := by
  obtain ⟨front, hfront⟩ := exists_of_aboveFrom? h
  refine ⟨front.reverse, ?_⟩
  have hname := congrArg List.reverse hfront
  simp only [List.reverse_reverse, List.reverse_append, List.reverse_cons] at hname
  exact hname.symm

theorem length_lt_of_above? (h : ls.above? name = some other) :
    other.toList.length < name.toList.length := by
  have hle := (prefix_of_above? h).length_le
  rw [List.length_append, List.length_singleton] at hle
  omega

/-! ### Loggers below another -/

/-- A logger stands below another, or is the same: the other one is found by going up from it. -/
inductive IsBelow (ls : Loggers) (top : String) : String → Prop
  | self : ls.IsBelow top top
  | step {name above : String} : ls.above? name = some above → ls.IsBelow top above →
      ls.IsBelow top name

/-- **A logger below one with a level has that level**, if no other levels were given. -/
theorem effectiveLevel_of_isBelow {level : Int} (htop : ls.ownLevel? top = some level)
    (hown : ∀ name own, ls.ownLevel? name = some own → own = level) (h : ls.IsBelow top name) :
    ls.effectiveLevel name = level := by
  induction h with
  | self =>
      rw [effectiveLevel_eq, htop]
      rfl
  | @step name above habove _ ih =>
      rw [effectiveLevel_eq, habove]
      cases hname : ls.ownLevel? name with
      | none => exact ih
      | some own => exact hown name own hname

/-- **A logger below none with a level has the level of the root.** -/
theorem effectiveLevel_of_free
    (h : ∀ top own, ls.ownLevel? top = some own → ¬ls.IsBelow top name) :
    ls.effectiveLevel name = ls.root := by
  -- names get shorter on the way up
  induction hlength : name.toList.length using Nat.strongRecOn generalizing name with
  | ind n ih =>
      rw [effectiveLevel_eq]
      cases hname : ls.ownLevel? name with
      | some own => exact absurd .self (h name own hname)
      | none =>
          cases habove : ls.above? name with
          | none => rfl
          | some above =>
              have hlt := length_lt_of_above? habove
              rw [hlength] at hlt
              exact ih _ hlt (fun top own hown hbelow => h top own hown (.step habove hbelow)) rfl

/-! ### Names that go on from one another -/

/-- A name is another's, or goes on from it with a dot. -/
def GoesOn (top name : String) : Prop :=
  name = top ∨ top.toList ++ ['.'] <+: name.toList

instance (top name : String) : Decidable (GoesOn top name) :=
  inferInstanceAs (Decidable (_ ∨ _))

/-- A logger stands below those only from whose names its name goes on. -/
theorem IsBelow.goesOn (h : ls.IsBelow top name) : GoesOn top name := by
  induction h with
  | self => exact .inl rfl
  | step habove _ ih =>
      have hname := prefix_of_above? habove
      rcases ih with rfl | hlonger
      · exact .inr hname
      · exact .inr ((hlonger.trans (List.prefix_append _ _)).trans hname)

/-- Going up from a name without neighbouring dots does not miss a logger whose name it goes on
from. -/
theorem exists_aboveFrom? (hmem : top ∈ ls.names) (hne : top.toList ≠ []) (front : List Char)
    (hplain : ¬['.', '.'] <:+: front ++ '.' :: top.toList.reverse) :
    ∃ above, ls.aboveFrom? (front ++ '.' :: top.toList.reverse) = some above ∧
      (above = top ∨ ∃ more, above.toList.reverse = more ++ '.' :: top.toList.reverse) := by
  have hwritten : ls.written? top.toList.reverse = some top :=
    written?_eq_some_iff.2 ⟨hmem, rfl⟩
  have hlast : ls.aboveFrom? ('.' :: top.toList.reverse) = some top := by
    cases htop : top.toList.reverse with
    | nil => exact absurd (List.reverse_eq_nil_iff.1 htop) hne
    | cons d rest =>
        rw [htop] at hwritten
        rw [aboveFrom?, if_pos rfl, hwritten, Option.some_or]
  have hrest : ∀ c cs, ¬['.', '.'] <:+: c :: cs → ¬['.', '.'] <:+: cs :=
    fun c cs h hcs => h (hcs.trans (List.suffix_cons c cs).isInfix)
  induction front using List.twoStepInduction with
  | nil => exact ⟨top, hlast, .inl rfl⟩
  | singleton c =>
      have hc : c ≠ '.' := by
        rintro rfl
        exact hplain ⟨[], top.toList.reverse, rfl⟩
      exact ⟨top, by rw [List.singleton_append, aboveFrom?, if_neg hc, hlast], .inl rfl⟩
  | cons_cons c d front ih ih' =>
      by_cases hc : c = '.'
      · subst hc
        cases hname : ls.written? (d :: (front ++ '.' :: top.toList.reverse)) with
        | some above =>
            refine ⟨above, ?_, .inr ⟨d :: front, (written?_eq_some_iff.1 hname).2⟩⟩
            rw [List.cons_append, List.cons_append, aboveFrom?, if_pos rfl, hname, Option.some_or]
        | none =>
            obtain ⟨above, habove, hor⟩ := ih (hrest _ _ (hrest _ _ hplain))
            refine ⟨above, ?_, hor⟩
            rw [List.cons_append, List.cons_append, aboveFrom?, if_pos rfl, hname, Option.none_or,
              habove]
      · obtain ⟨above, habove, hor⟩ := ih' d (hrest _ _ hplain)
        refine ⟨above, ?_, hor⟩
        rw [List.cons_append, List.cons_append, aboveFrom?, if_neg hc]
        exact habove

/-- **Names without neighbouring dots tell where loggers stand.** -/
theorem isBelow_iff_goesOn (hmem : top ∈ ls.names) (hne : top ≠ "")
    (hplain : ¬['.', '.'] <:+: name.toList) : ls.IsBelow top name ↔ GoesOn top name := by
  refine ⟨IsBelow.goesOn, ?_⟩
  have hchars : top.toList ≠ [] := by simpa using hne
  induction hlength : name.toList.length using Nat.strongRecOn generalizing name with
  | ind n ih =>
      rintro (rfl | ⟨front, hfront⟩)
      · exact .self
      · have hname : name.toList.reverse = front.reverse ++ '.' :: top.toList.reverse := by
          rw [← hfront]
          simp
        have hplain' : ¬['.', '.'] <:+: name.toList.reverse := by
          rw [← List.reverse_infix]
          simpa using hplain
        rw [hname] at hplain'
        obtain ⟨above, habove, hor⟩ := exists_aboveFrom? hmem hchars front.reverse hplain'
        rw [← hname] at habove
        have hup : ls.above? name = some above := habove
        refine .step hup ?_
        have hlt := length_lt_of_above? hup
        rw [hlength] at hlt
        have hinfix : above.toList <:+: name.toList :=
          ((List.prefix_append _ _).trans (prefix_of_above? hup)).isInfix
        refine ih _ hlt (fun h => hplain (h.trans hinfix)) rfl ?_
        rcases hor with rfl | ⟨more, hmore⟩
        · exact .inl rfl
        · refine .inr ⟨more.reverse, ?_⟩
          have habove' := congrArg List.reverse hmore
          simp only [List.reverse_reverse, List.reverse_append, List.reverse_cons] at habove'
          exact habove'.symm

end Loggers

end WorkspaceWatch
