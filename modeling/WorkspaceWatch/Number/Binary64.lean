/-
**Binary floating-point numbers of 64 bits.**

A number is kept exactly, as a signed multiple of a power of two, next to the two infinities and
the one value that is no number.  Reading a decimal rounds to the nearest such number, a tie going
to the even multiple; a number too large becomes an infinity.

Main definitions:

* `WorkspaceWatch.Binary64`: the type;
* `WorkspaceWatch.Binary64.ofRatio`: the nearest number to a quotient;
* `WorkspaceWatch.Binary64.ofDecimal`: the nearest number to digits with a power of ten.
-/

set_option autoImplicit false

namespace WorkspaceWatch

/-- A quotient rounded to the nearest whole number, a half going to the even neighbour. -/
def roundHalfEven (num den : Nat) : Nat :=
  let q := num / den
  let r := 2 * (num % den)
  if r < den ∨ (r = den ∧ q % 2 = 0) then q else q + 1

/-- A binary floating-point number of 64 bits: no number at all, an infinity, or the number
`mantissa * 2 ^ exponent` with a sign that zero has too. -/
inductive Binary64 where
  | nan
  | infinite (negative : Bool)
  | finite (negative : Bool) (mantissa : Nat) (exponent : Int)
deriving DecidableEq, Repr

namespace Binary64

/-- The least power of two that a number is a multiple of. -/
def leastExponent : Int := -1074

/-- The greatest power of two that a full mantissa can stand with. -/
def greatestExponent : Int := 971

/-- `num / den` scaled by a power of two, as a quotient of whole numbers. -/
def scaleRatio (num den : Nat) (exponent : Int) : Nat × Nat :=
  if 0 ≤ exponent then (num, den * Nat.pow 2 exponent.toNat)
  else (num * Nat.pow 2 (-exponent).toNat, den)

/-- The power of two for which `num / den` has a mantissa of 53 bits. -/
def fullExponent (num den : Nat) : Int :=
  let e : Int := (num.log2 : Int) - den.log2
  let (n, d) := scaleRatio num den e
  if d ≤ n then e - 52 else e - 53

/-- The number nearest to `num / den`. -/
def ofRatio (negative : Bool) (num den : Nat) : Binary64 :=
  if num = 0 then .finite negative 0 leastExponent
  else
    let e := max (fullExponent num den) leastExponent
    let (n, d) := scaleRatio num den e
    let m := roundHalfEven n d
    let (m, e) := if m = Nat.pow 2 53 then (Nat.pow 2 52, e + 1) else (m, e)
    if e > greatestExponent then .infinite negative else .finite negative m e

/-- The number nearest to `digits * 10 ^ exponent`.  Exponents far outside the range are settled
by the number of digits. -/
def ofDecimal (negative : Bool) (digits : Nat) (exponent : Int) : Binary64 :=
  if digits = 0 then .finite negative 0 leastExponent
  else
    let size : Int := (digits.log2 : Int) * 30103 / 100000 + exponent
    if size > 400 then .infinite negative
    else if size < -400 then .finite negative 0 leastExponent
    else if 0 ≤ exponent then ofRatio negative (digits * Nat.pow 10 exponent.toNat) 1
    else ofRatio negative digits (Nat.pow 10 (-exponent).toNat)

/-- The number nearest to a whole number. -/
def ofInt (n : Int) : Binary64 :=
  ofDecimal (n < 0) n.natAbs 0

/-- Whether the number has a minus sign. -/
def isNegative : Binary64 → Bool
  | nan => false
  | infinite negative => negative
  | finite negative _ _ => negative

/-- A finite number's distance from zero, as a quotient. -/
def ratio (mantissa : Nat) (exponent : Int) : Nat × Nat :=
  if 0 ≤ exponent then (mantissa * Nat.pow 2 exponent.toNat, 1)
  else (mantissa, Nat.pow 2 (-exponent).toNat)

/-- A number without its fraction, if it is finite. -/
def truncate? : Binary64 → Option Int
  | finite negative m e =>
    let (n, d) := ratio m e
    some (if negative then -((n / d : Nat) : Int) else ((n / d : Nat) : Int))
  | _ => none

/-- Whether two numbers are equal as numbers: the zeros are, and the value that is no number is
not equal to itself. -/
def sameNumber : Binary64 → Binary64 → Bool
  | finite s m e, finite t n f =>
    let (a, b) := ratio m e
    let (c, d) := ratio n f
    a * d == c * b && (s == t || a == 0)
  | infinite s, infinite t => s == t
  | _, _ => false

/-- Whether a number equals a whole number. -/
def sameInt (x : Binary64) (n : Int) : Bool :=
  match x with
  | finite s m e =>
    let (a, b) := ratio m e
    a == n.natAbs * b && (a == 0 || s == (decide (n < 0)))
  | _ => false

/-! ### The fewest digits that read back -/

/-- The least `p` with `num / den < 10 ^ p`, up from a first guess. -/
def decimalSizeFrom (num den : Nat) : Nat → Int → Int
  | 0, p => p
  | fuel + 1, p =>
    let below := if 0 ≤ p then num < den * Nat.pow 10 p.toNat else num * Nat.pow 10 (-p).toNat < den
    if below then p else decimalSizeFrom num den fuel (p + 1)

/-- The least `p` with `num / den < 10 ^ p`, for a quotient above zero. -/
def decimalSize (num den : Nat) : Int :=
  let bits : Int := (num.log2 : Int) - den.log2 - 1
  decimalSizeFrom num den 4 (bits * 30103 / 100000)

/-- `num / den` divided by a power of ten. -/
def scaleDecimal (num den : Nat) (power : Int) : Nat × Nat :=
  if 0 ≤ power then (num, den * Nat.pow 10 power.toNat)
  else (num * Nat.pow 10 (-power).toNat, den)

/-- The multiple of a power of ten next to `num / den` that reads back as `x`, if one does; the
nearer one if both neighbours do. -/
def onGrid? (x : Binary64) (num den : Nat) (power : Int) : Option Nat :=
  let (n, d) := scaleDecimal num den power
  let low := n / d
  let high := low + 1
  let near := roundHalfEven n d
  let far := if near = low then high else low
  if ofDecimal false near power = x then some near
  else if ofDecimal false far power = x then some far
  else none

/-- The first count of digits, from `count` on, whose grid has a number that reads back. -/
def shortestFrom (x : Binary64) (num den : Nat) (size : Int) : Nat → Nat → Nat × Int
  | 0, count => (roundHalfEven (scaleDecimal num den (size - count)).1
      (scaleDecimal num den (size - count)).2, size - count)
  | fuel + 1, count =>
    match onGrid? x num den (size - count) with
    | some digits => (digits, size - count)
    | none => shortestFrom x num den size fuel (count + 1)

/-- The fewest digits, with a power of ten, that read back as `mantissa * 2 ^ exponent`; of those,
the nearest. -/
def shortest (mantissa : Nat) (exponent : Int) : Nat × Int :=
  let (n, d) := ratio mantissa exponent
  shortestFrom (.finite false mantissa exponent) n d (decimalSize n d) 16 1

end Binary64

end WorkspaceWatch
