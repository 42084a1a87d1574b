/-
**Hexadecimal digits.**

Main definitions:

* `WorkspaceWatch.hexDigitValue?`: the value of one digit, in either case;
* `WorkspaceWatch.hexText`: a number in small digits, filled up with zeros to a width.
-/

set_option autoImplicit false

namespace WorkspaceWatch

/-- The value of a hexadecimal digit, in either case. -/
def hexDigitValue? (c : Char) : Option Nat :=
  if '0' ≤ c ∧ c ≤ '9' then some (c.toNat - '0'.toNat)
  else if 'a' ≤ c ∧ c ≤ 'f' then some (c.toNat - 'a'.toNat + 10)
  else if 'A' ≤ c ∧ c ≤ 'F' then some (c.toNat - 'A'.toNat + 10)
  else none

/-- The number that a row of hexadecimal digits stands for. -/
def hexValue? (cs : List Char) : Option Nat :=
  cs.foldlM (fun n c => (hexDigitValue? c).map (n * 16 + ·)) 0

/-- A number in small hexadecimal digits, filled up with zeros to a width. -/
def hexText (width n : Nat) : List Char :=
  let digits := Nat.toDigits 16 n
  List.replicate (width - digits.length) '0' ++ digits

/-- A byte as two capital hexadecimal digits. -/
def hexByte (b : UInt8) : List Char :=
  (hexText 2 b.toNat).map Char.toUpper

/-- Bytes from pairs of hexadecimal digits. -/
def bytesOfHex? : List Char → Option (List UInt8)
  | [] => some []
  | [_] => none
  | a :: b :: rest => do
    let value ← hexValue? [a, b]
    let bytes ← bytesOfHex? rest
    some (.ofNat value :: bytes)

end WorkspaceWatch
