/-
**Numbers in text.**

Numbers that people write are read more freely than those of the wire: blanks around them do not
matter, and digits may be set apart with underscores.  On the command line the digits of every
script count, in the settings only the ASCII ones.

Main definitions:

* `WorkspaceWatch.wholeNumber?`, `WorkspaceWatch.decimalNumber?`: numbers on the command line;
* `WorkspaceWatch.settingNumber?`: numbers in the settings.
-/

import WorkspaceWatch.Number.Binary64
import WorkspaceWatch.Text.Blank
import WorkspaceWatch.Text.DecimalDigit

set_option autoImplicit false

namespace WorkspaceWatch

/-- The number a row of ASCII digits stands for. -/
def digitRowValue (cs : List Char) : Nat :=
  cs.foldl (fun n c => n * 10 + (c.toNat - '0'.toNat)) 0

/-- A sign at the front, minus being true, with what follows. -/
def scanSign : List Char → Bool × List Char
  | '-' :: rest => (true, rest)
  | '+' :: rest => (false, rest)
  | cs => (false, cs)

/-- The character with digits of other scripts replaced by ASCII ones. -/
def asciiDigit (c : Char) : Char :=
  match decimalDigit? c with
  | some d => Char.ofNat ('0'.toNat + d)
  | none => c

/-- The characters without underscores, each of which must have a digit before and after it;
`afterDigit` says whether the character before was one. -/
def dropSeparators? (afterDigit : Bool) : List Char → Option (List Char)
  | [] => some []
  | ['_'] => none
  | '_' :: c :: rest =>
    if afterDigit && c.isDigit then (dropSeparators? true rest).map (c :: ·) else none
  | c :: rest => (dropSeparators? c.isDigit rest).map (c :: ·)

/-- The most digits a whole number may have in text. -/
def maxDigits : Nat := 4300

/-- A whole number with digits of any script. -/
def wholeNumber? (s : String) : Option Int :=
  match dropSeparators? false ((trim isWhiteSpace s.toList).map asciiDigit) with
  | none => none
  | some cs =>
    let (negative, digits) := scanSign cs
    if digits.isEmpty || !digits.all Char.isDigit || digits.length > maxDigits then none
    else some (if negative then -(digitRowValue digits : Int) else digitRowValue digits)

/-- A number without blanks and underscores: digits with an optional point and exponent, or the
name of an infinity or of the value that is no number. -/
def plainNumber? (cs : List Char) : Option Binary64 :=
  let (negative, cs) := scanSign cs
  let name := String.ofList (cs.map Char.toLower)
  if name = "inf" ∨ name = "infinity" then some (.infinite negative)
  else if name = "nan" then some .nan
  else
    let whole := cs.takeWhile Char.isDigit
    let (fraction, rest) := match cs.dropWhile Char.isDigit with
      | '.' :: rest => (rest.takeWhile Char.isDigit, rest.dropWhile Char.isDigit)
      | rest => ([], rest)
    if whole.isEmpty && fraction.isEmpty then none
    else
      let number (exponent : Int) : Binary64 :=
        .ofDecimal negative (digitRowValue (whole ++ fraction)) (exponent - fraction.length)
      match rest with
      | [] => some (number 0)
      | mark :: rest =>
        let (below, digits) := scanSign rest
        if (mark = 'e' ∨ mark = 'E') ∧ !digits.isEmpty ∧ digits.all Char.isDigit then
          some (number (if below then -(digitRowValue digits : Int) else digitRowValue digits))
        else none

/-- A number with digits of any script, as the command line takes it. -/
def decimalNumber? (s : String) : Option Binary64 :=
  (dropSeparators? false ((trim isWhiteSpace s.toList).map asciiDigit)).bind plainNumber?

/-- Whether two underscores stand next to each other. -/
def hasDoubleUnderscore : List Char → Bool
  | '_' :: '_' :: _ => true
  | _ :: rest => hasDoubleUnderscore rest
  | [] => false

/-- A number as the settings take it: underscores may stand anywhere but at the ends of the whole
text and next to each other. -/
def settingNumber? (s : String) : Option Binary64 :=
  let cs := s.toList
  match plainNumber? (trim isWhiteSpace cs) with
  | some x => some x
  | none =>
    if cs.head? == some '_' || cs.getLast? == some '_' || hasDoubleUnderscore cs then none
    else plainNumber? (trim isWhiteSpace (cs.filter (· != '_')))

end WorkspaceWatch
