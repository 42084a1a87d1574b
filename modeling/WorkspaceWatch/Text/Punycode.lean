/-
**Code points written in ASCII.**

A label of a host name that is not ASCII is written as its ASCII characters, a hyphen, and a row of
letters and digits that says where the other code points stand.  These are inserted from the
smallest to the largest; each insertion is one number, the number of places and code points passed
over since the last one.  A number is written in digits of base 36, the least one first; below a
threshold, which adapts to the numbers before, a digit is the last of its number.

Main definitions:

* `WorkspaceWatch.Punycode.encode`: code points as ASCII;
* `WorkspaceWatch.Punycode.decode?`: the code points of an ASCII text.
-/

set_option autoImplicit false

namespace WorkspaceWatch

namespace Punycode

/-- A digit below 36: a letter, or from 26 on a decimal digit. -/
def digitChar (d : Nat) : Char :=
  if d < 26 then Char.ofNat ('a'.toNat + d) else Char.ofNat ('0'.toNat + (d - 26))

/-- The value of a digit, in either case. -/
def digitValue? (c : Char) : Option Nat :=
  if 'a' ≤ c ∧ c ≤ 'z' then some (c.toNat - 'a'.toNat)
  else if 'A' ≤ c ∧ c ≤ 'Z' then some (c.toNat - 'A'.toNat)
  else if '0' ≤ c ∧ c ≤ '9' then some (c.toNat - '0'.toNat + 26)
  else none

/-- The threshold of the digit at a place. -/
def threshold (place bias : Nat) : Nat :=
  max 1 (min 26 (36 * (place + 1) - bias))

theorem threshold_pos (place bias : Nat) : 0 < threshold place bias := by
  simp only [threshold]
  omega

theorem threshold_lt (place bias : Nat) : threshold place bias < 36 := by
  simp only [threshold]
  omega

/-- A number divided by 35 until it is small, and how often that was done. -/
def shrink (n : Nat) : Nat × Nat :=
  if 455 < n then
    let (small, times) := shrink (n / 35)
    (small, times + 1)
  else (n, 0)

/-- The bias after a number: `count` code points are in place, and the first number of all counts
for less. -/
def adapt (n count : Nat) (isFirst : Bool) : Nat :=
  let n := if isFirst then n / 700 else n / 2
  let (small, times) := shrink (n + n / count)
  36 * times + 36 * small / (small + 38)

/-! ### Writing -/

/-- A number in digits, the least one first. -/
def digits (bias place n : Nat) : List Char :=
  let t := threshold place bias
  if n < t then [digitChar n]
  else digitChar (t + (n - t) % (36 - t)) :: digits bias (place + 1) ((n - t) / (36 - t))
termination_by n
decreasing_by
  have := threshold_pos place bias
  have := Nat.div_le_self (n - threshold place bias) (36 - threshold place bias)
  omega

/-- What has been written so far. -/
structure Writer where
  /-- The digits. -/
  out : List Char := []
  /-- How much was passed over since the last insertion. -/
  passed : Nat := 0
  /-- The bias of the next number. -/
  bias : Nat := 72
  /-- How many code points are in place. -/
  count : Nat
  /-- Whether nothing was inserted yet. -/
  isFirst : Bool := true

/-- One place of the label passed, with all code points below `least` in place: `least` itself is
inserted there. -/
def Writer.pass (least : Nat) (w : Writer) (n : Nat) : Writer :=
  if n < least then { w with passed := w.passed + 1 }
  else if n = least then
    { out := w.out ++ digits w.bias 0 w.passed, passed := 0,
      bias := adapt w.passed (w.count + 1) w.isFirst, count := w.count + 1, isFirst := false }
  else w

/-- The code points inserted one after another, each at all its places; all below `least` are in
place. -/
def Writer.insert (label : List Nat) (least : Nat) (w : Writer) : List Nat → Writer
  | [] => w
  | n :: rest =>
    let w := { w with passed := w.passed + (n - least) * (w.count + 1) }
    let w := label.foldl (Writer.pass n) w
    Writer.insert label (n + 1) { w with passed := w.passed + 1 } rest

/-- Code points as ASCII. -/
def encode (label : List Nat) : List Char :=
  let basic := label.filter (· < 0x80)
  let others := ((label.filter (0x80 ≤ ·)).mergeSort (· ≤ ·)).eraseReps
  basic.map Char.ofNat ++ (if basic.isEmpty then [] else ['-']) ++
    (Writer.insert label 0x80 { count := basic.length } others).out

/-! ### Reading -/

/-- The number at the front, with what follows it; `sum` is what the digits before give, and
`weight` what the next one counts. -/
def number? (bias place weight sum : Nat) : List Char → Option (Nat × List Char)
  | [] => none
  | c :: rest =>
    match digitValue? c with
    | none => none
    | some d =>
      let t := threshold place bias
      if d < t then some (sum + d * weight, rest)
      else number? bias (place + 1) (weight * (36 - t)) (sum + d * weight) rest

/-- The label with the code points of a row of numbers inserted; `next` is where the search for the
next place begins, in a label whose code points are at most `least`.  Every number takes a step of
the fuel, which is as many as there are digits. -/
def insert? (fuel bias least next : Nat) (isFirst : Bool) (label : List Nat) (cs : List Char) :
    Option (List Nat) :=
  match fuel, cs with
  | _, [] => some label
  | 0, _ => none
  | fuel + 1, cs =>
    match number? bias 0 1 0 cs with
    | none => none
    | some (n, rest) =>
      let places := label.length + 1
      let least := least + (next + n) / places
      if 0x10ffff < least then none
      else
        let place := (next + n) % places
        insert? fuel (adapt n places isFirst) least (place + 1) false
          (label.insertIdx place least) rest

/-- The code points of an ASCII text. -/
def decode? (cs : List Char) : Option (List Nat) :=
  let digits := (cs.reverse.takeWhile (· != '-')).reverse
  let basic := (cs.reverse.dropWhile (· != '-')).reverse.dropLast
  insert? digits.length 72 0x80 0 true (basic.map Char.toNat) digits

end Punycode

end WorkspaceWatch
