/-
**Codings of a body.**

A response says in its headers how its body was coded.  Codings that are known are undone, the last
one first; a body under any other name is taken as it is.  Compressed data comes with a header and,
at its end, with checks; where it breaks off, what was read before counts.

Main definitions:

* `WorkspaceWatch.Coding`: the codings that are known;
* `WorkspaceWatch.Coding.undo`: a body without its coding;
* `WorkspaceWatch.Coding.undoAll`: a body without all codings that its headers name.
-/

import WorkspaceWatch.Coding.Inflate
import WorkspaceWatch.Text.Blank
import WorkspaceWatch.Text.Casing
import WorkspaceWatch.Text.Segments

set_option autoImplicit false

namespace WorkspaceWatch

/-- The codings that are known. -/
inductive Coding where
  | identity
  | gzip
  | deflate
deriving DecidableEq, Repr

namespace Coding

open Inflate

/-- The coding of a name, in any letter case and with blanks around it. -/
def named? (name : String) : Option Coding :=
  match lowerCase (.ofList (trim isBlank name.toList)) with
  | "identity" => some identity
  | "gzip" => some gzip
  | "deflate" => some deflate
  | _ => none

/-- The codings that a list of names calls. -/
def listed (names : String) : List Coding :=
  (splitAtMark ',' names.toList).filterMap fun name => named? (.ofList name)

/-! ### Checks -/

/-- The check of bytes by their remainder. -/
def crc32 (bytes : List UInt8) : Nat :=
  let step (r : Nat) : Nat := if r % 2 = 0 then r / 2 else Nat.xor (r / 2) 0xedb88320
  let all := bytes.foldl (fun r b => Nat.repeat step 8 (Nat.xor r b.toNat)) 0xffffffff
  Nat.xor all 0xffffffff

/-- The check of bytes by their sums. -/
def adler32 (bytes : List UInt8) : Nat :=
  let (low, high) := bytes.foldl (fun (low, high) b =>
    let low := (low + b.toNat) % 65521
    (low, (high + low) % 65521)) (1, 0)
  high * 65536 + low

/-! ### Compressed data -/

/-- A number of bytes, the highest one first. -/
def takeHighFirst (n : Nat) : Reader Nat := do
  let bytes ← (List.range n).mapM fun _ => take 8
  return bytes.foldl (fun value b => value * 256 + b) 0

/-- Bytes passed over up to a zero. -/
def skipText : Nat → Reader Unit
  | 0 => throw .short
  | fuel + 1 => do
    if (← take 8) ≠ 0 then skipText fuel

/-- All blocks, with what stands before the next byte passed over. -/
def wholeBlocks : Reader Unit := do
  blocks ((← get).bits.length + 1)
  align

/-- The failure that asks for a dictionary, which nobody has. -/
def noDictionary : String := "no dictionary"

/-- Compressed data with the header and the check of the plain format. -/
def readPlain : Reader Unit := do
  let method ← take 8
  let flags ← take 8
  if (method * 256 + flags) % 31 ≠ 0 then throw (.bad "incorrect header check")
  if method % 16 ≠ 8 then throw (.bad "unknown compression method")
  if 7 < method / 16 then throw (.bad "invalid window size")
  if flags / 32 % 2 = 1 then
    let _ ← take 32
    throw (.bad noDictionary)
  wholeBlocks
  if (← takeHighFirst 4) ≠ adler32 (← get).out.toList then throw (.bad "incorrect data check")

/-- Compressed data with the header and the checks of the format for files. -/
def readFile (data : List UInt8) : Reader Unit := do
  if (← take 16) ≠ 0x8b1f then throw (.bad "incorrect header check")
  let flags ← take 16
  let isSet (bit : Nat) : Bool := (flags / 256).testBit bit
  if flags % 256 ≠ 8 then throw (.bad "unknown compression method")
  if isSet 5 || isSet 6 || isSet 7 then throw (.bad "unknown header flags set")
  let _ ← take 48
  if isSet 2 then
    let size ← take 16
    let _ ← take (8 * size)
  if isSet 3 then skipText data.length
  if isSet 4 then skipText data.length
  if isSet 1 then
    let header := data.take (data.length - (← get).bits.length / 8)
    if (← take 16) ≠ crc32 header % 65536 then throw (.bad "header crc mismatch")
  wholeBlocks
  let out := (← get).out
  if (← take 32) ≠ crc32 out.toList then throw (.bad "incorrect data check")
  if (← take 32) ≠ out.size % 0x100000000 then throw (.bad "incorrect length check")

/-- What a failure to read compressed data says. -/
def failureText (reason : String) : String :=
  if reason = noDictionary then "Error 2 while decompressing data"
  else "Error -3 while decompressing data: " ++ reason

/-- Bytes read from compressed data, or what the failure says. -/
def bytesRead (reader : Reader Unit) (data : List UInt8) : Except String ByteArray :=
  match reader.run { bits := bitsOf data } with
  | (.error (.bad reason), _) => .error (failureText reason)
  | (_, p) => .ok ⟨p.out⟩

/-- A body without its coding, or what the failure says.  Where data is called deflated and has no
header, it is read without one. -/
def undo (coding : Coding) (body : ByteArray) : Except String ByteArray :=
  let data := body.toList
  match coding with
  | identity => .ok body
  | gzip => bytesRead (readFile data) data
  | deflate =>
    match bytesRead readPlain data with
    | .ok bytes => .ok bytes
    | .error _ => bytesRead wholeBlocks data

/-- A body without its codings, which are given in the order in which they were applied. -/
def undoAll (codings : List Coding) (body : ByteArray) : Except String ByteArray :=
  codings.foldrM undo body

end Coding

end WorkspaceWatch
