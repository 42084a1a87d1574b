/-
**Decimal notation of binary numbers.**

A number is written in one of two ways.  The natural notation takes the fewest digits that read
back to the number; the others take a count of digits that the reader of the text asked for.  Both
end in the same layout: digits, a place for the point, and an exponent if the point would be far
away.

Main definitions:

* `WorkspaceWatch.Binary64.text`: the natural notation;
* `WorkspaceWatch.Binary64.fixedText`, `WorkspaceWatch.Binary64.scientificText`,
  `WorkspaceWatch.Binary64.generalText`: notation with a given precision, without the sign.
-/

import WorkspaceWatch.Number.Binary64

set_option autoImplicit false

namespace WorkspaceWatch

/-- The decimal digits of a number. -/
def decimalDigits (n : Nat) : List Char :=
  Nat.toDigits 10 n

/-- Digits filled up with zeros in front to a width. -/
def padZeros (width : Nat) (digits : List Char) : List Char :=
  List.replicate (width - digits.length) '0' ++ digits

/-- Digits with a point after the first `point` of them, filled up with zeros on both sides. -/
def positional (digits : List Char) (point : Int) : List Char × List Char :=
  if 0 < point then
    let n := point.toNat
    (digits.take n ++ List.replicate (n - digits.length) '0', digits.drop n)
  else (['0'], List.replicate (-point).toNat '0' ++ digits)

/-- An exponent with its sign and at least two digits. -/
def exponentText (exponent : Int) : List Char :=
  (if exponent < 0 then '-' else '+') :: padZeros 2 (decimalDigits exponent.natAbs)

/-- Whole and fractional digits joined by a point, which a number without a fraction has only on
request. -/
def joinPoint (keepPoint : Bool) (whole fraction : List Char) : List Char :=
  if fraction.isEmpty && !keepPoint then whole else whole ++ '.' :: fraction

/-- Digits without the zeros at the end. -/
def dropTrailingZeros (digits : List Char) : List Char :=
  (digits.reverse.dropWhile (· == '0')).reverse

namespace Binary64

/-- Digits in the natural layout: positional from `0.0001` to below `10 ^ 16`, where a whole number
is followed by `.0`, and otherwise with an exponent. -/
def naturalLayout (digits : List Char) (point : Int) : List Char :=
  if -4 < point ∧ point ≤ 16 then
    let (whole, fraction) := positional digits point
    whole ++ '.' :: (if fraction.isEmpty then ['0'] else fraction)
  else joinPoint false (digits.take 1) (digits.drop 1) ++ 'e' :: exponentText (point - 1)

/-- The natural notation: the fewest digits that read back. -/
def text : Binary64 → String
  | nan => "nan"
  | infinite negative => if negative then "-inf" else "inf"
  | finite negative m e =>
    let body :=
      if m = 0 then ['0', '.', '0']
      else
        let (n, power) := shortest m e
        let digits := decimalDigits n
        naturalLayout (dropTrailingZeros digits) (digits.length + power)
    .ofList (if negative then '-' :: body else body)

/-- Digits with a fixed number of places after the point. -/
def fixedText (keepPoint : Bool) (m : Nat) (e : Int) (places : Nat) : List Char :=
  let (n, d) := ratio m e
  let digits := padZeros (places + 1) (decimalDigits (roundHalfEven (n * Nat.pow 10 places) d))
  joinPoint keepPoint (digits.take (digits.length - places)) (digits.drop (digits.length - places))

/-- A number above zero rounded to a count of digits, with the place of the point. -/
def roundToDigits (m : Nat) (e : Int) (count : Nat) : List Char × Int :=
  let (n, d) := ratio m e
  let size := decimalSize n d
  let (n', d') := scaleDecimal n d (size - count)
  let digits := decimalDigits (roundHalfEven n' d')
  (digits.take count, size + (digits.length - count : Nat))

/-- The digits of a number with the place of the point; zero has as many digits as are asked for. -/
def digitsOf (m : Nat) (e : Int) (count : Nat) : List Char × Int :=
  if m = 0 then (List.replicate count '0', 1) else roundToDigits m e count

/-- Digits with an exponent, one digit standing before the point. -/
def scientificText (keepPoint : Bool) (m : Nat) (e : Int) (places : Nat) : List Char :=
  let (digits, point) := digitsOf m e (places + 1)
  joinPoint keepPoint (digits.take 1) (digits.drop 1) ++ 'e' :: exponentText (point - 1)

/-- A given count of digits, positional unless the point would be far away.  Zeros at the end of
the fraction are dropped, unless the point is kept on request. -/
def generalText (keepPoint : Bool) (m : Nat) (e : Int) (precision : Nat) : List Char :=
  let count := max precision 1
  let (digits, point) := digitsOf m e count
  let digits := if keepPoint then digits else
    match dropTrailingZeros digits with
    | [] => ['0']
    | kept => kept
  if -4 < point ∧ point ≤ count then
    let (whole, fraction) := positional digits point
    joinPoint keepPoint whole fraction
  else joinPoint keepPoint (digits.take 1) (digits.drop 1) ++ 'e' :: exponentText (point - 1)

end Binary64

end WorkspaceWatch
