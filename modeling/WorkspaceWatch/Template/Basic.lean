/-
**Templates with replacement fields.**

A template is text with fields in braces.  A brace that is meant as text is written twice.  A
field names what is to be put in its place; after `!` it may ask for a conversion, and after `:`
for a layout, which may itself hold fields.

Main definitions:

* `WorkspaceWatch.Template.Piece`: literal characters, fields, and the place where a template is
  malformed;
* `WorkspaceWatch.Template.pieces`: the pieces of a template;
* `WorkspaceWatch.Template.TemplateError`: what can be wrong with a template or its use;
* `WorkspaceWatch.Template.escape`: a text as the template that stands for it.

Main results:

* `WorkspaceWatch.Template.piecesFrom_escape_append`: an escaped text is read character by
  character, whatever stands behind it;
* `WorkspaceWatch.Template.pieces_escape`: an escaped text has its characters as pieces.
-/

import WorkspaceWatch.Text.DecimalDigit
import WorkspaceWatch.Text.Hexadecimal
import WorkspaceWatch.Text.Quoted

set_option autoImplicit false

namespace WorkspaceWatch

namespace Template

/-- What can be wrong with a template or its use. Braces and brackets may stand alone, be left open
or be followed by something that cannot follow; a field may ask for an argument by its number or by
an unknown name, or look into a text or a type where nothing is; layouts nest too deep or fill up
too far; and a layout may ask for what a text does not have, such as separators of thousands or a
sign. -/
inductive TemplateError where
  | singleClose
  | singleOpen
  | openInName
  | conversionMissing
  | afterConversion
  | layoutUnclosed
  | fieldUnclosed
  | noArgument (position : Nat)
  | tooManyDigits
  | unknownName (name : String)
  | emptyAttribute
  | bracketUnclosed
  | afterBracket
  | indexRange
  | indexNotNumber
  | noTextAttribute (name : String)
  | noTypeAttribute (type name : String)
  | typeNotIndexed (type : String)
  | typeLayout
  | unknownConversion (mark : Char)
  | tooDeep
  | noRoom
  | bothSeparators
  | precisionMissing
  | malformedLayout (layout : String)
  | separatorWith (separator presentation : Char)
  | unknownPresentation (mark : Char)
  | spaceForSign
  | sign
  | negativeZero
  | alternate
  | padAfterSign
deriving DecidableEq, Repr

/-- A character in an error message, by its number if it is not a visible ASCII one. -/
def shownMark (c : Char) : String :=
  if 32 < c.toNat ∧ c.toNat < 128 then c.toString
  else .ofList ('\\' :: 'x' :: hexText 1 c.toNat)

/-- What the message of an error says. -/
def TemplateError.message : TemplateError → String
  | singleClose => "Single '\x7d' encountered in format string"
  | singleOpen => "Single '\x7b' encountered in format string"
  | openInName => "unexpected '\x7b' in field name"
  | conversionMissing => "end of string while looking for conversion specifier"
  | afterConversion => "expected ':' after conversion specifier"
  | layoutUnclosed => "unmatched '\x7b' in format spec"
  | fieldUnclosed => "expected '\x7d' before end of string"
  | noArgument position =>
    "Replacement index " ++ toString position ++ " out of range for positional args tuple"
  | tooManyDigits => "Too many decimal digits in format string"
  | unknownName name => quoted name
  | emptyAttribute => "Empty attribute in format string"
  | bracketUnclosed => "Missing ']' in format string"
  | afterBracket => "Only '.' or '[' may follow ']' in format field specifier"
  | indexRange => "string index out of range"
  | indexNotNumber => "string indices must be integers, not 'str'"
  | noTextAttribute name => "'str' object has no attribute '" ++ name ++ "'"
  | noTypeAttribute type name => "type object '" ++ type ++ "' has no attribute '" ++ name ++ "'"
  | typeNotIndexed type => "type '" ++ type ++ "' is not subscriptable"
  | typeLayout => "unsupported format string passed to type.__format__"
  | unknownConversion mark =>
    if mark.toNat = 127 then "Unknown conversion specifier \\x7f"
    else "Unknown conversion specifier " ++ shownMark mark
  | tooDeep => "Max string recursion exceeded"
  | noRoom => ""
  | bothSeparators => "Cannot specify both ',' and '_'."
  | precisionMissing => "Format specifier missing precision"
  | malformedLayout layout =>
    "Invalid format specifier '" ++ layout ++ "' for object of type 'str'"
  | separatorWith separator presentation =>
    "Cannot specify '" ++ separator.toString ++ "' with '" ++ shownMark presentation ++ "'."
  | unknownPresentation mark =>
    "Unknown format code '" ++ shownMark mark ++ "' for object of type 'str'"
  | spaceForSign => "Space not allowed in string format specifier"
  | sign => "Sign not allowed in string format specifier"
  | negativeZero => "Negative zero coercion (z) not allowed in string format specifier"
  | alternate => "Alternate form (#) not allowed in string format specifier"
  | padAfterSign => "'=' alignment not allowed in string format specifier"

/-- A field of a template. -/
structure Replacement where
  /-- The name, with its attributes and indices. -/
  name : List Char
  /-- The conversion asked for. -/
  conversion? : Option Char
  /-- The layout. -/
  layout : List Char
  /-- Whether the layout holds fields. -/
  layoutHasFields : Bool
deriving DecidableEq, Repr

/-- A piece of a template: a character that stands for itself, a field, or what is malformed from
there on. -/
inductive Piece where
  | literal (c : Char)
  | field (f : Replacement)
  | broken (error : TemplateError)
deriving DecidableEq, Repr

/-- The characters of a name and the mark that ends it, with what follows; a bracket protects what
is inside it.  `done` holds the characters so far, the last one first. -/
def scanName (inBracket : Bool) (done : List Char) :
    List Char → Except TemplateError (List Char × Char × List Char)
  | [] => .error .fieldUnclosed
  | c :: rest =>
    if inBracket then scanName (c != ']') (c :: done) rest
    else if c = '\x7b' then .error .openInName
    else if c = '\x7d' ∨ c = ':' ∨ c = '!' then .ok (done.reverse, c, rest)
    else scanName (c == '[') (c :: done) rest

/-- The characters of a layout up to the brace that closes its field, with what follows and with
whether it holds an opening brace.  `opened` counts the braces that are still open. -/
def scanLayout (opened : Nat) (nested : Bool) (done : List Char) :
    List Char → Except TemplateError (List Char × Bool × List Char)
  | [] => .error .layoutUnclosed
  | c :: rest =>
    if c = '\x7b' then scanLayout (opened + 1) true (c :: done) rest
    else if c = '\x7d' then
      match opened with
      | 0 => .ok (done.reverse, nested, rest)
      | opened + 1 => scanLayout opened nested (c :: done) rest
    else scanLayout opened nested (c :: done) rest

/-- A field after its opening brace, with what follows it. -/
def scanField (cs : List Char) : Except TemplateError (Replacement × List Char) := do
  let (name, mark, rest) ← scanName false [] cs
  let withLayout (conversion? : Option Char) (cs : List Char) := do
    let (layout, nested, rest) ← scanLayout 0 false [] cs
    return (⟨name, conversion?, layout, nested⟩, rest)
  if mark = '\x7d' then return (⟨name, none, [], false⟩, rest)
  else if mark = ':' then withLayout none rest
  else match rest with
    | [] => throw .conversionMissing
    | [_] => throw .layoutUnclosed
    | c :: '\x7d' :: rest => return (⟨name, some c, [], false⟩, rest)
    | c :: ':' :: rest => withLayout (some c) rest
    | _ => throw .afterConversion

/-- The pieces of a template; every piece takes at least one step of the fuel. -/
def piecesFrom : Nat → List Char → List Piece
  | 0, _ => []
  | _, [] => []
  | fuel + 1, '\x7b' :: '\x7b' :: rest => .literal '\x7b' :: piecesFrom fuel rest
  | fuel + 1, '\x7d' :: '\x7d' :: rest => .literal '\x7d' :: piecesFrom fuel rest
  | _, ['\x7b'] => [.broken .singleOpen]
  | fuel + 1, c :: rest =>
    if c = '\x7d' then [.broken .singleClose]
    else if c = '\x7b' then
      match scanField rest with
      | .ok (f, rest) => .field f :: piecesFrom fuel rest
      | .error e => [.broken e]
    else .literal c :: piecesFrom fuel rest

/-- The pieces of a template. -/
def pieces (cs : List Char) : List Piece :=
  piecesFrom cs.length cs

/-- A text as the template that stands for it: every brace is doubled. -/
def escape (cs : List Char) : List Char :=
  cs.flatMap fun c => if c = '\x7b' ∨ c = '\x7d' then [c, c] else [c]

theorem escape_cons (c : Char) (cs : List Char) :
    escape (c :: cs) = (if c = '\x7b' ∨ c = '\x7d' then [c, c] else [c]) ++ escape cs := by
  simp [escape]

theorem length_le_length_escape (cs : List Char) : cs.length ≤ (escape cs).length := by
  induction cs with
  | nil => exact Nat.le_refl 0
  | cons c cs ih =>
    rw [escape_cons, List.length_append, List.length_cons]
    split <;> simp only [List.length_cons, List.length_nil] <;> omega

@[simp] theorem piecesFrom_nil (fuel : Nat) : piecesFrom fuel [] = [] := by
  cases fuel <;> rfl

/-- An escaped text is read character by character, whatever stands behind it. -/
theorem piecesFrom_escape_append (cs rest : List Char) (fuel : Nat) :
    piecesFrom (cs.length + fuel) (escape cs ++ rest) =
      cs.map .literal ++ piecesFrom fuel rest := by
  induction cs with
  | nil => rw [List.length_nil, Nat.zero_add]; rfl
  | cons c cs ih =>
    have hfuel : (c :: cs).length + fuel = (cs.length + fuel) + 1 := by
      rw [List.length_cons]; omega
    rw [escape_cons, hfuel, List.map_cons, List.cons_append, ← ih]
    by_cases ho : c = '\x7b'
    · subst ho
      rfl
    · by_cases hc : c = '\x7d'
      · subst hc
        rfl
      · simp only [ho, hc, or_self, if_false, List.cons_append, List.nil_append]
        rw [piecesFrom]
        · simp only [ho, hc, if_false]
        all_goals simp_all

/-- An escaped text has its characters as pieces. -/
theorem pieces_escape (cs : List Char) : pieces (escape cs) = cs.map .literal := by
  obtain ⟨fuel, hfuel⟩ := Nat.exists_eq_add_of_le (length_le_length_escape cs)
  have h := piecesFrom_escape_append cs [] fuel
  rwa [List.append_nil, ← hfuel, piecesFrom_nil, List.append_nil] at h

end Template

end WorkspaceWatch
