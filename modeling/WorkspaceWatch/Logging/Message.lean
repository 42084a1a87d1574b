/-
**Messages with directives.**

A diagnostic message may be given arguments, which take the places of its directives.  A directive
begins with a percent sign and names a presentation; in between it may name a key, flags, a width
and a precision.  The arguments are taken in a row, or by key if there is one object only.

Main definitions:

* `WorkspaceWatch.Message.fill`: a message with its arguments in place;
* `WorkspaceWatch.Message.MessageError`: why a message cannot be filled in.
-/

import WorkspaceWatch.Json.Shown
import WorkspaceWatch.Text.Hexadecimal

set_option autoImplicit false

namespace WorkspaceWatch

namespace Message

/-- Why a message cannot be filled in. Keys need an object; a width or a precision may be taken from
the arguments and must be small enough, and so must the text in all; there must be as many arguments
as directives; a presentation takes only arguments of its own kind, and some numbers have no whole
part, are too large for a fraction, or are no character's number. -/
inductive MessageError where
  | noMapping
  | keyUnclosed
  | unknownKey (key : String)
  | starNotWhole
  | starTooLarge (holder : String)
  | widthTooLarge
  | precisionTooLarge
  | wholePrecisionTooLarge
  | noRoom
  | incomplete
  | tooFew
  | tooMany
  | notNumber (presentation : Char) (found : String)
  | notWhole (presentation : Char) (found : String)
  | notReal (found : String)
  | wholeOfNan
  | wholeOfInfinity
  | tooLarge
  | notCharacter
  | noCharacter
  | unknownPresentation (mark : Char) (position : Nat)
deriving DecidableEq, Repr

/-- What the message of an error says. -/
def MessageError.message : MessageError → String
  | noMapping => "format requires a mapping"
  | keyUnclosed => "incomplete format key"
  | unknownKey key => quoted key
  | starNotWhole => "* wants int"
  | starTooLarge holder => "Python int too large to convert to C " ++ holder
  | widthTooLarge => "width too big"
  | precisionTooLarge => "precision too big"
  | wholePrecisionTooLarge => "precision too large"
  | noRoom => ""
  | incomplete => "incomplete format"
  | tooFew => "not enough arguments for format string"
  | tooMany => "not all arguments converted during string formatting"
  | notNumber presentation found =>
    "%" ++ presentation.toString ++ " format: a real number is required, not " ++ found
  | notWhole presentation found =>
    "%" ++ presentation.toString ++ " format: an integer is required, not " ++ found
  | notReal found => "must be real number, not " ++ found
  | wholeOfNan => "cannot convert float NaN to integer"
  | wholeOfInfinity => "cannot convert float infinity to integer"
  | tooLarge => "int too large to convert to float"
  | notCharacter => "%c requires int or char"
  | noCharacter => "%c arg not in range(0x110000)"
  | unknownPresentation mark position =>
    let shown := if 31 ≤ mark.toNat ∧ mark.toNat ≤ 126 then mark.toString else "?"
    "unsupported format character '" ++ shown ++ "' (0x" ++ .ofList (hexText 1 mark.toNat) ++
      ") at index " ++ toString position

/-- The name of a kind of value in messages. -/
def kindName : Json → String
  | .null => "NoneType"
  | .bool _ => "bool"
  | .int _ => "int"
  | .float _ => "float"
  | .text _ => "str"
  | .array _ => "list"
  | .object _ => "dict"

/-! ### Arguments -/

/-- The arguments that are left: those of a row, or a single one, which can be taken once. -/
inductive Supply where
  | row (left : List Json)
  | single (value : Json)
  | spent

/-- The next argument, with those that are left. -/
def Supply.next : Supply → Except MessageError (Json × Supply)
  | row (v :: left) => .ok (v, row left)
  | single v => .ok (v, spent)
  | _ => .error .tooFew

/-! ### Directives -/

/-- How a directive shapes its argument. -/
structure Shape where
  /-- Filled up at the right. -/
  left : Bool := false
  /-- A plus sign before numbers. -/
  plus : Bool := false
  /-- A space in place of a plus sign. -/
  space : Bool := false
  /-- The alternate form. -/
  alternate : Bool := false
  /-- Filled up with zeros. -/
  zero : Bool := false
  /-- The least number of characters. -/
  width? : Option Nat := none
  /-- The precision. -/
  precision? : Option Nat := none

/-- The characters of a key up to the parenthesis that closes it, with what follows.  `opened`
counts the parentheses that are still open. -/
def scanKey (opened : Nat) (done : List Char) : List Char → Except MessageError (String × List Char)
  | [] => .error .keyUnclosed
  | c :: rest =>
    if c = ')' then
      match opened with
      | 0 => .ok (.ofList done.reverse, rest)
      | opened + 1 => scanKey opened (c :: done) rest
    else scanKey (if c = '(' then opened + 1 else opened) (c :: done) rest

/-- The flags at the front, with what follows. -/
def scanFlags (s : Shape) : List Char → Shape × List Char
  | '-' :: rest => scanFlags { s with left := true } rest
  | '+' :: rest => scanFlags { s with plus := true } rest
  | ' ' :: rest => scanFlags { s with space := true } rest
  | '#' :: rest => scanFlags { s with alternate := true } rest
  | '0' :: rest => scanFlags { s with zero := true } rest
  | cs => (s, cs)

/-- A row of digits at the front as a number, with what follows; `limit` is the greatest it may
be. -/
def scanDigits (limit : Nat) (error : MessageError) (n : Nat) :
    List Char → Except MessageError (Nat × List Char)
  | [] => .ok (n, [])
  | c :: rest =>
    if c.isDigit then
      let d := c.toNat - '0'.toNat
      if n > (limit - d) / 10 then .error error else scanDigits limit error (n * 10 + d) rest
    else .ok (n, c :: rest)

/-- The greatest width. -/
def maxWidth : Nat := 0x7fffffffffffffff

/-- The greatest precision. -/
def maxPrecision : Nat := 0x7fffffff

/-- The greatest precision of a whole number. -/
def maxWholePrecision : Nat := 0x7ffffffc

/-- The greatest width that a text can be filled up to. -/
def maxRoom : Nat := 0xffffffff

/-- A whole number among the arguments; truth values count as zero and one. -/
def whole? : Json → Option Int
  | .int n => some n
  | .bool b => some (if b then 1 else 0)
  | _ => none

/-- A whole number taken from the arguments for a width or a precision. -/
def takeStar (limit : Nat) (holder : String) (supply : Supply) :
    Except MessageError (Int × Supply) := do
  let (v, supply) ← supply.next
  match whole? v with
  | none => throw .starNotWhole
  | some n =>
    if n > limit ∨ n < -limit - 1 then throw (.starTooLarge holder) else return (n, supply)

/-- The width at the front, with what follows and with the arguments that are left. -/
def scanWidth (s : Shape) (supply : Supply) :
    List Char → Except MessageError (Shape × Supply × List Char)
  | '*' :: rest => do
    let (n, supply) ← takeStar maxWidth "ssize_t" supply
    return ({ s with left := s.left || n < 0, width? := some n.natAbs }, supply, rest)
  | c :: rest =>
    if c.isDigit then do
      let (n, rest) ← scanDigits maxWidth .widthTooLarge 0 (c :: rest)
      return ({ s with width? := some n }, supply, rest)
    else .ok (s, supply, c :: rest)
  | [] => .ok (s, supply, [])

/-- The precision at the front, with what follows and with the arguments that are left. -/
def scanPrecision (s : Shape) (supply : Supply) :
    List Char → Except MessageError (Shape × Supply × List Char)
  | '.' :: '*' :: rest => do
    let (n, supply) ← takeStar maxPrecision "int" supply
    return ({ s with precision? := some n.toNat }, supply, rest)
  | '.' :: rest => do
    let (n, rest) ← scanDigits maxPrecision .precisionTooLarge 0 rest
    return ({ s with precision? := some n }, supply, rest)
  | cs => .ok (s, supply, cs)

/-- A letter for the size of a number at the front passed over. -/
def skipSize : List Char → List Char
  | c :: rest => if c = 'h' ∨ c = 'l' ∨ c = 'L' then rest else c :: rest
  | [] => []

/-! ### Presentations -/

/-- A sign, a mark for the base, and the characters of an argument. -/
structure Shown where
  /-- Whether the argument is a number, and below zero. -/
  negative? : Option Bool
  /-- The mark for the base. -/
  base : List Char := []
  /-- The characters. -/
  body : List Char

/-- The sign that a shape gives a number. -/
def Shape.sign (s : Shape) (negative? : Option Bool) : List Char :=
  match negative? with
  | none => []
  | some true => ['-']
  | some false => if s.plus then ['+'] else if s.space then [' '] else []

/-- An argument filled up with some more characters. -/
def Shape.fillUp (s : Shape) (x : Shown) (space : Nat) : List Char :=
  let front := s.sign x.negative? ++ x.base
  if s.left then front ++ x.body ++ List.replicate space ' '
  else if s.zero && x.negative?.isSome then front ++ List.replicate space '0' ++ x.body
  else List.replicate space ' ' ++ front ++ x.body

/-- An argument filled up to the width. -/
def Shape.lay (s : Shape) (x : Shown) : Except MessageError (List Char) :=
  let width := s.width?.getD 0
  if width > maxRoom then .error .noRoom
  else .ok (s.fillUp x (width - ((s.sign x.negative?).length + x.base.length + x.body.length)))

/-- An argument as text. -/
def textShown (s : Shape) (presentation : Char) (v : Json) : Shown :=
  let text := match presentation with
    | 's' => v.plain
    | 'r' => v.shown
    | _ => v.shownAscii
  { negative? := none, body := match s.precision? with
    | some n => text.toList.take n
    | none => text.toList }

/-- An argument as a whole number. -/
def wholeOf (presentation : Char) (v : Json) : Except MessageError Int :=
  match whole? v with
  | some n => .ok n
  | none =>
    let forWhole := presentation = 'o' ∨ presentation = 'x' ∨ presentation = 'X'
    match v with
    | .float x =>
      if forWhole then .error (.notWhole presentation (kindName v))
      else match x with
        | .nan => .error .wholeOfNan
        | .infinite _ => .error .wholeOfInfinity
        | x => .ok (x.truncate?.getD 0)
    | _ =>
      if forWhole then .error (.notWhole presentation (kindName v))
      else .error (.notNumber presentation (kindName v))

/-- A whole number in a presentation. -/
def wholeShown (s : Shape) (presentation : Char) (n : Int) : Shown :=
  let (base, mark) := match presentation with
    | 'o' => (8, ['0', 'o'])
    | 'x' => (16, ['0', 'x'])
    | 'X' => (16, ['0', 'X'])
    | _ => (10, [])
  let digits := Nat.toDigits base n.natAbs
  let digits := if presentation = 'X' then digits.map Char.toUpper else digits
  let digits := padZeros (s.precision?.getD 0) digits
  { negative? := some (n < 0), base := if s.alternate then mark else [], body := digits }

/-- An argument as a fractional number. -/
def realOf (v : Json) : Except MessageError Binary64 :=
  match v, whole? v with
  | .float x, _ => .ok x
  | _, some n =>
    match Binary64.ofInt n with
    | .infinite _ => .error .tooLarge
    | x => .ok x
  | _, none => .error (.notReal (kindName v))

/-- A fractional number in a presentation. -/
def realShown (s : Shape) (presentation : Char) (x : Binary64) : Shown :=
  let precision := s.precision?.getD 6
  let body := match x with
    | .nan => ['n', 'a', 'n']
    | .infinite _ => ['i', 'n', 'f']
    | .finite _ m e =>
      match presentation.toLower with
      | 'f' => Binary64.fixedText s.alternate m e precision
      | 'e' => Binary64.scientificText s.alternate m e precision
      | _ => Binary64.generalText s.alternate m e precision
  { negative? := some x.isNegative
    body := if presentation.isUpper then body.map Char.toUpper else body }

/-- An argument as one character. -/
def characterOf (v : Json) : Except MessageError Char :=
  match v, whole? v with
  | .text s, _ =>
    match s.toList with
    | [c] => .ok c
    | _ => .error .notCharacter
  | _, some n => if 0 ≤ n ∧ n < 0x110000 then .ok (Char.ofNat n.toNat) else .error .noCharacter
  | _, none => .error .notCharacter

/-- The presentations of text. -/
def textMarks : List Char := ['s', 'r', 'a']

/-- The presentations of whole numbers. -/
def wholeMarks : List Char := ['d', 'i', 'u', 'o', 'x', 'X']

/-- The presentations of fractional numbers. -/
def realMarks : List Char := ['e', 'E', 'f', 'F', 'g', 'G']

/-- An argument in the presentation of a directive; `position` is where the presentation stands. -/
def present (s : Shape) (presentation : Char) (position : Unit → Nat) (v : Json) :
    Except MessageError (List Char) :=
  if textMarks.contains presentation then s.lay (textShown s presentation v)
  else if wholeMarks.contains presentation then
    (wholeOf presentation v).bind fun n =>
      if s.precision?.getD 0 > maxWholePrecision then .error .wholePrecisionTooLarge
      else s.lay (wholeShown s presentation n)
  else if realMarks.contains presentation then
    (realOf v).bind fun x => s.lay (realShown s presentation x)
  else if presentation = 'c' then
    (characterOf v).bind fun c => s.lay { negative? := none, body := [c] }
  else .error (.unknownPresentation presentation (position ()))

/-! ### Whole messages -/

/-- The key at the front of a directive looked up, with what follows. -/
def takeKey (object? : Option (List (String × Json))) (supply : Supply) :
    List Char → Except MessageError (Supply × List Char)
  | '(' :: rest =>
    match object? with
    | none => .error .noMapping
    | some entries => do
      let (key, rest) ← scanKey 0 [] rest
      match Json.lookup? entries key with
      | some v => return (.single v, rest)
      | none => throw (.unknownKey key)
  | cs => .ok (supply, cs)

/-- A directive after its percent sign: what takes its place, the arguments that are left, and
what follows.  `size` is the length of the whole message. -/
def directive (object? : Option (List (String × Json))) (size : Nat) (supply : Supply)
    (cs : List Char) : Except MessageError (List Char × Supply × List Char) :=
  match cs with
  | '%' :: rest => .ok (['%'], supply, rest)
  | _ => do
    let (supply, cs) ← takeKey object? supply cs
    let (s, cs) := scanFlags {} cs
    let (s, supply, cs) ← scanWidth s supply cs
    let (s, supply, cs) ← scanPrecision s supply cs
    match skipSize cs with
    | [] => throw .incomplete
    | presentation :: rest =>
      let (v, supply) ← supply.next
      let text ← present s presentation (fun _ => size - rest.length - 1) v
      match object?, supply with
      | some _, .single _ => throw .tooMany
      | _, _ => return (text, supply, rest)

/-- A message with its arguments in place; every character takes at most one step of the fuel. -/
def fillFrom (object? : Option (List (String × Json))) (size : Nat) :
    Nat → Supply → List Char → Except MessageError (List Char)
  | 0, _, _ => .ok []
  | _, supply, [] =>
    match object?, supply with
    | none, .row (_ :: _) => .error .tooMany
    | _, _ => .ok []
  | fuel + 1, supply, c :: rest =>
    if c = '%' then do
      let (text, supply, rest) ← directive object? size supply rest
      return text ++ (← fillFrom object? size fuel supply rest)
    else return c :: (← fillFrom object? size fuel supply rest)

/-- A message with its arguments in place.  Without arguments it is taken as it is; a single object
that is not empty is looked into by key. -/
def fill (message : String) (arguments : List Json) : Except MessageError String :=
  let cs := message.toList
  let filled (object? : Option (List (String × Json))) (supply : Supply) :=
    (fillFrom object? cs.length (cs.length + 1) supply cs).map String.ofList
  match arguments with
  | [] => .ok message
  | [.object (entry :: entries)] =>
    filled (some (entry :: entries)) (.single (.object (entry :: entries)))
  | arguments => filled none (.row arguments)

end Message

end WorkspaceWatch
