/-
**Segments of a text.**

A text can be cut at every occurrence of a mark and put together again.

Main definitions:

* `WorkspaceWatch.splitAtMark`: the pieces between the marks, one more than there are marks;
* `WorkspaceWatch.joinWithMark`: pieces with a mark between each two.

Main results:

* `WorkspaceWatch.joinWithMark_splitAtMark`: nothing is lost by cutting;
* `WorkspaceWatch.splitAtMark_joinWithMark`: pieces without the mark are found again.
-/

set_option autoImplicit false

namespace WorkspaceWatch

/-- The pieces of a text between the occurrences of a mark. -/
def splitAtMark (mark : Char) : List Char → List (List Char)
  | [] => [[]]
  | c :: rest =>
    match splitAtMark mark rest with
    | [] => [[c]]
    | piece :: pieces => if c = mark then [] :: piece :: pieces else (c :: piece) :: pieces

/-- Pieces with a mark between each two. -/
def joinWithMark (mark : Char) : List (List Char) → List Char
  | [] => []
  | [piece] => piece
  | piece :: next :: rest => piece ++ mark :: joinWithMark mark (next :: rest)

theorem splitAtMark_ne_nil (mark : Char) (cs : List Char) : splitAtMark mark cs ≠ [] := by
  cases cs with
  | nil => simp [splitAtMark]
  | cons c rest =>
    rw [splitAtMark]
    split
    · simp
    · split <;> simp

/-- Nothing is lost by cutting. -/
theorem joinWithMark_splitAtMark (mark : Char) (cs : List Char) :
    joinWithMark mark (splitAtMark mark cs) = cs := by
  induction cs with
  | nil => rfl
  | cons c rest ih =>
    rw [splitAtMark]
    split
    · next h => exact absurd h (splitAtMark_ne_nil mark rest)
    · next piece pieces h =>
      rw [h] at ih
      split
      · next hc => simp [joinWithMark, ih, hc]
      · cases pieces with
        | nil => simpa [joinWithMark] using ih
        | cons next more => simpa [joinWithMark] using ih

/-- A text without the mark is one piece, and a mark ends a piece. -/
theorem splitAtMark_append_mark (mark : Char) (piece cs : List Char) (h : mark ∉ piece) :
    splitAtMark mark (piece ++ mark :: cs) = piece :: splitAtMark mark cs := by
  induction piece with
  | nil =>
    rw [List.nil_append, splitAtMark]
    split
    · next hn => exact absurd hn (splitAtMark_ne_nil mark cs)
    · next hn => simp [hn]
  | cons c piece ih =>
    simp only [List.mem_cons, not_or] at h
    rw [List.cons_append, splitAtMark, ih h.2]
    simp [Ne.symm h.1]

theorem splitAtMark_of_notMem (mark : Char) (piece : List Char) (h : mark ∉ piece) :
    splitAtMark mark piece = [piece] := by
  induction piece with
  | nil => rfl
  | cons c piece ih =>
    simp only [List.mem_cons, not_or] at h
    rw [splitAtMark, ih h.2]
    simp [Ne.symm h.1]

/-- Pieces without the mark are found again. -/
theorem splitAtMark_joinWithMark (mark : Char) (pieces : List (List Char)) (hne : pieces ≠ [])
    (h : ∀ piece ∈ pieces, mark ∉ piece) :
    splitAtMark mark (joinWithMark mark pieces) = pieces := by
  induction pieces with
  | nil => exact absurd rfl hne
  | cons piece rest ih =>
    cases rest with
    | nil => exact splitAtMark_of_notMem mark piece (h piece (by simp))
    | cons next more =>
      rw [joinWithMark, splitAtMark_append_mark mark piece _ (h piece (by simp)),
        ih (by simp) (fun p hp => h p (by simp [hp]))]

end WorkspaceWatch
