/-
**Percent escapes.**

A character that may not stand in a part of a URL is written as its bytes in UTF-8, each as a
percent sign with two hexadecimal digits.  Reading undoes this, and reads bytes that are not UTF-8
as replacement characters.  Form fields are written with fewer characters kept and with a plus
sign for the space.

Main definitions:

* `WorkspaceWatch.percentEncode`: a text with the characters outside a class escaped;
* `WorkspaceWatch.percentBytes`: the bytes an escaped text stands for;
* `WorkspaceWatch.formEncode`: a text as the value of a form field;
* `WorkspaceWatch.decodeLossy`: the text of bytes, whatever they are.
-/

import WorkspaceWatch.Text.Hexadecimal

set_option autoImplicit false

namespace WorkspaceWatch

/-- A byte as a percent sign and two digits. -/
def percentByte (b : UInt8) : List Char :=
  '%' :: hexByte b

/-- A character as the escapes of its bytes. -/
def percentChar (c : Char) : List Char :=
  (String.utf8EncodeChar c).flatMap percentByte

/-- A text with the characters outside a class escaped. -/
def percentEncode (keep : Char → Bool) (cs : List Char) : List Char :=
  cs.flatMap fun c => if keep c then [c] else percentChar c

/-- The characters that never need an escape. -/
def isUnreserved (c : Char) : Bool :=
  c.isAlphanum || c == '-' || c == '.' || c == '_' || c == '~'

/-- A text as the value of a form field. -/
def formEncode (cs : List Char) : List Char :=
  cs.flatMap fun c => if c = ' ' then ['+'] else if isUnreserved c then [c] else percentChar c

/-- The bytes an escaped ASCII text stands for; a percent sign without two digits stands for
itself. -/
def percentBytes : List Char → List UInt8
  | [] => []
  | '%' :: a :: b :: rest =>
    match hexValue? [a, b] with
    | some n => .ofNat n :: percentBytes rest
    | none => '%'.toNat.toUInt8 :: percentBytes (a :: b :: rest)
  | c :: rest => String.utf8EncodeChar c ++ percentBytes rest

/-! ### Bytes that may not be UTF-8 -/

/-- A span of bytes. -/
abbrev ByteSpan := UInt8 × UInt8

/-- The bytes that continue a character. -/
def tailSpan : ByteSpan := (0x80, 0xbf)

/-- For the first byte of a character of several bytes: the bits it gives, and what each further
byte may be. -/
def leadByte? (b : UInt8) : Option (Nat × List ByteSpan) :=
  let n := b.toNat
  if 0xc2 ≤ n ∧ n ≤ 0xdf then some (n - 0xc0, [tailSpan])
  else if n = 0xe0 then some (0, [(0xa0, 0xbf), tailSpan])
  else if n = 0xed then some (0xd, [(0x80, 0x9f), tailSpan])
  else if 0xe1 ≤ n ∧ n ≤ 0xef then some (n - 0xe0, [tailSpan, tailSpan])
  else if n = 0xf0 then some (0, [(0x90, 0xbf), tailSpan, tailSpan])
  else if 0xf1 ≤ n ∧ n ≤ 0xf3 then some (n - 0xf0, [tailSpan, tailSpan, tailSpan])
  else if n = 0xf4 then some (4, [(0x80, 0x8f), tailSpan, tailSpan])
  else none

/-- The character that stands for bytes that are not UTF-8. -/
def replacementChar : Char := '\ufffd'

/-- The text of bytes in which a character has been begun: `bits` are those read so far, `spans`
what is still to come.  A character that is broken off is replaced as far as it went. -/
def decodeLossyFrom (bits : Nat) (spans : List ByteSpan) : List UInt8 → List Char
  | [] => if spans.isEmpty then [] else [replacementChar]
  | b :: rest =>
    let start (broken : List Char) : List Char :=
      if b < 0x80 then broken ++ Char.ofNat b.toNat :: decodeLossyFrom 0 [] rest
      else match leadByte? b with
        | some (bits, spans) => broken ++ decodeLossyFrom bits spans rest
        | none => broken ++ replacementChar :: decodeLossyFrom 0 [] rest
    match spans with
    | [] => start []
    | (low, high) :: spans =>
      if low ≤ b ∧ b ≤ high then
        let bits := bits * 64 + (b.toNat - 0x80)
        if spans.isEmpty then Char.ofNat bits :: decodeLossyFrom 0 [] rest
        else decodeLossyFrom bits spans rest
      else start [replacementChar]

/-- The text of bytes, those that are not UTF-8 replaced. -/
def decodeLossy (bytes : List UInt8) : List Char :=
  decodeLossyFrom 0 [] bytes

/-- The text an escaped text stands for. -/
def percentDecode (cs : List Char) : List Char :=
  decodeLossy (percentBytes cs)

end WorkspaceWatch
