/-
**Names that may have been meant.**

A name that is not known is compared with those that are.  Two names are as much alike as they have
characters in common blocks: the longest common block first, then the longest ones before and
after it.  Those at least three fifths alike are suggested, the three best of them at most.

Main definitions:

* `WorkspaceWatch.Suggestion.common`: how many characters two names have in common blocks;
* `WorkspaceWatch.Suggestion.closest`: the names to suggest, in alphabetical order.
-/

set_option autoImplicit false

namespace WorkspaceWatch

namespace Suggestion

/-- How many characters two texts share at the front. -/
def sharedFront : List Char → List Char → Nat
  | a :: as, b :: bs => if a = b then sharedFront as bs + 1 else 0
  | _, _ => 0

/-- The longest common block: where it begins in each text, and how long it is.  Of several as
long, the one that begins first in the first text, then in the second. -/
def longestBlock (as bs : List Char) : Nat × Nat × Nat :=
  (List.range as.length).foldl (fun best i =>
    (List.range bs.length).foldl (fun best j =>
      let size := sharedFront (as.drop i) (bs.drop j)
      if size > best.2.2 then (i, j, size) else best) best) (0, 0, 0)

/-- How many characters two texts have in common blocks; every block takes one step of the fuel. -/
def commonFrom : Nat → List Char → List Char → Nat
  | 0, _, _ => 0
  | fuel + 1, as, bs =>
    let (i, j, size) := longestBlock as bs
    if size = 0 then 0
    else
      commonFrom fuel (as.take i) (bs.take j) + size +
        commonFrom fuel (as.drop (i + size)) (bs.drop (j + size))

/-- How many characters two texts have in common blocks. -/
def common (as bs : List Char) : Nat :=
  commonFrom (as.length + 1) as bs

/-- A known name with how much it is alike: characters in common, and characters in all. -/
structure Candidate where
  /-- The name. -/
  name : String
  /-- The characters in common. -/
  shared : Nat
  /-- The characters of both names. -/
  total : Nat

/-- Whether a candidate comes before another one: it is more alike, or as much and greater as a
text. -/
def Candidate.before (x y : Candidate) : Bool :=
  let a := x.shared * y.total
  let b := y.shared * x.total
  a > b || (a == b && y.name ≤ x.name)

/-- The most names suggested. -/
def maxCount : Nat := 3

/-- The names to suggest, in alphabetical order. -/
def closest (known : List String) (name : String) : List String :=
  let candidates := (known.map fun k =>
    { name := k, shared := common k.toList name.toList, total := k.length + name.length :
      Candidate }).filter fun c => 3 * c.total ≤ 10 * c.shared
  ((candidates.mergeSort Candidate.before).take maxCount |>.map (·.name)).mergeSort (· ≤ ·)

end Suggestion

end WorkspaceWatch
