/-
**Labels of host names.**

A label that is not ASCII has an ASCII form, with a prefix that says so.  Before a label is written
or after it is read it is checked: it must be in composed form, its hyphens and marks must stand
where they may, and so must every one of its code points.

Main definitions:

* `WorkspaceWatch.Idna.NameError`: what is wrong with a label or a name;
* `WorkspaceWatch.Idna.labelFault?`: the first fault of a label;
* `WorkspaceWatch.Idna.labelToAscii`, `WorkspaceWatch.Idna.labelToUnicode`: the two forms of a label.
-/

import WorkspaceWatch.Idna.Direction
import WorkspaceWatch.Text.Punycode
import WorkspaceWatch.Text.Quoted

set_option autoImplicit false

namespace WorkspaceWatch

namespace Idna

/-- What is wrong with a label or a name.  A fault at a place has the code point there, its place
from one on, and the label. -/
inductive NameError where
  | emptyName
  | nameTooLong
  | emptyLabel
  | labelTooLong
  | notComposed
  | innerHyphens
  | outerHyphen
  | mark
  | codePoint (n position : Nat) (label : List Nat)
  | joiner (n position : Nat) (label : List Nat)
  | sign (n position : Nat) (label : List Nat)
  | direction (error : DirectionError) (label : List Nat)
  | emptyAscii
  | asciiHyphen
  | ascii
deriving DecidableEq, Repr

/-! ### Messages -/

/-- A code point by its number. -/
def pointText (n : Nat) : String :=
  "U+" ++ .ofList ((hexText 4 n).map Char.toUpper)

/-- A label in quotes; a code point that is no character is escaped. -/
def quotedLabel (label : List Nat) : String :=
  let mark := quoteMark (label.map Char.ofNat)
  let shown (n : Nat) : List Char :=
    if n.isValidChar then quotedChar isPrintable mark (Char.ofNat n) else '\\' :: 'u' :: hexText 4 n
  .ofList (mark :: label.flatMap shown ++ [mark])

/-- What the message about a direction says. -/
def DirectionError.message (label : List Nat) : DirectionError → String
  | unknown position =>
    "Unknown directionality in label " ++ quotedLabel label ++ " at position " ++ toString position
  | start =>
    "First codepoint in label " ++ quotedLabel label ++ " must be directionality L, R or AL"
  | place position rightToLeft =>
    "Invalid direction for codepoint at position " ++ toString position ++ " in a " ++
      (if rightToLeft then "right-to-left" else "left-to-right") ++ " label"
  | numbers => "Can not mix numeral types in a right-to-left label"
  | ending => "Label ends with illegal codepoint directionality"

namespace NameError

/-- The kind of an error. -/
def kind : NameError → String
  | codePoint _ _ _ => "InvalidCodepoint"
  | sign _ _ _ => "InvalidCodepointContext"
  | direction _ _ => "IDNABidiError"
  | _ => "IDNAError"

/-- What the message of an error says. -/
def message : NameError → String
  | emptyName => "Empty domain"
  | nameTooLong => "Domain too long"
  | emptyLabel => "Empty Label"
  | labelTooLong => "Label too long"
  | notComposed => "Label must be in Normalization Form C"
  | innerHyphens => "Label has disallowed hyphens in 3rd and 4th position"
  | outerHyphen => "Label must not start or end with a hyphen"
  | mark => "Label begins with an illegal combining character"
  | codePoint n position label =>
    "Codepoint " ++ pointText n ++ " at position " ++ toString position ++ " of " ++
      quotedLabel label ++ " not allowed"
  | joiner n position label =>
    "Unknown codepoint adjacent to joiner " ++ pointText n ++ " at position " ++
      toString position ++ " in " ++ quotedLabel label
  | sign n position label =>
    "Codepoint " ++ pointText n ++ " not allowed at position " ++ toString position ++ " in " ++
      quotedLabel label
  | direction e label => e.message label
  | emptyAscii => "Malformed A-label, no Punycode eligible content found"
  | asciiHyphen => "A-label must not end with a hyphen"
  | ascii => "Invalid A-label"

end NameError

/-! ### Checks -/

/-- The first code point that may not stand where it does; `before` are those passed already, the
nearest first. -/
def pointFault? (label before : List Nat) : List Nat → Option NameError
  | [] => none
  | n :: after =>
    let position := before.length + 1
    let fault? : Option NameError :=
      if permittedSpans.covers n then none
      else if n = nonJoiner ∨ n = joiner then
        if joinerFits n before after then none else some (.joiner n position label)
      else if signSpans.covers n then
        if signFits n before after then none else some (.sign n position label)
      else some (.codePoint n position label)
    match fault? with
    | some e => some e
    | none => pointFault? label (n :: before) after

/-- The most code points of a label when it is checked, and of a name. -/
def maxNameLength : Nat := 254

/-- The first fault of a label. -/
def labelFault? (label : List Nat) : Option NameError :=
  if label.isEmpty then some .emptyLabel
  else if label.length > maxNameLength then some .labelTooLong
  else if !isComposed label then some .notComposed
  else if (label.drop 2).take 2 = ['-'.toNat, '-'.toNat] then some .innerHyphens
  else if label.head? = some '-'.toNat ∨ label.getLast? = some '-'.toNat then some .outerHyphen
  else if label.head?.any markSpans.covers then some .mark
  else
    match pointFault? label [] label with
    | some e => some e
    | none => (directionFault? (label.map Direction.ofPoint)).map (.direction · label)

/-- A label, if it has no fault. -/
def checkedLabel (label : List Nat) : Except NameError (List Nat) :=
  match labelFault? label with
  | some e => .error e
  | none => .ok label

/-! ### The two forms -/

/-- The prefix of the ASCII form. -/
def asciiPrefix : List Char := ['x', 'n', '-', '-']

/-- The most characters of the ASCII form of a label. -/
def maxLabelLength : Nat := 63

/-- The label that an ASCII text stands for. -/
def labelToUnicode (cs : List Char) : Except NameError (List Nat) :=
  let cs := cs.map Char.toLower
  if asciiPrefix.isPrefixOf cs then
    let digits := cs.drop asciiPrefix.length
    if digits.isEmpty then .error .emptyAscii
    else if digits.getLast? = some '-' then .error .asciiHyphen
    else
      match Punycode.decode? digits with
      | some label => checkedLabel label
      | none => .error .ascii
  else checkedLabel (cs.map Char.toNat)

/-- The ASCII form of a label. -/
def labelToAscii (cs : List Char) : Except NameError (List Char) := do
  let ascii ←
    if cs.all (·.toNat < 0x80) then
      let _ ← labelToUnicode cs
      pure cs
    else
      let label ← checkedLabel (cs.map Char.toNat)
      pure (asciiPrefix ++ Punycode.encode label)
  if ascii.length > maxLabelLength then .error .labelTooLong else return ascii

end Idna

end WorkspaceWatch
