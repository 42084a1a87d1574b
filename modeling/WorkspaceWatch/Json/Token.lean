/-
**The tokens of JSON text.**

A text is cut into marks, texts and words before it is read.  A word is a run of letters, digits,
signs and points; it is a number or one of the named constants, or the text is refused.  Texts
allow no raw control characters, and of escaped surrogates only pairs.

Main definitions:

* `WorkspaceWatch.Json.Token`: the tokens;
* `WorkspaceWatch.Json.tokens?`: the tokens of a text.
-/

import WorkspaceWatch.Json.Basic
import WorkspaceWatch.Text.Hexadecimal

set_option autoImplicit false

namespace WorkspaceWatch

namespace Json

/-- A token of JSON text: a mark, a text, or a number or named constant. -/
inductive Token where
  | openArray
  | closeArray
  | openObject
  | closeObject
  | comma
  | colon
  | text (value : String)
  | atom (value : Json)
deriving Repr

/-- The marks that are tokens by themselves. -/
def mark? : Char → Option Token
  | '[' => some .openArray
  | ']' => some .closeArray
  | '{' => some .openObject
  | '}' => some .closeObject
  | ',' => some .comma
  | ':' => some .colon
  | _ => none

/-- The blanks that may stand between tokens. -/
def isSpace (c : Char) : Bool :=
  c == ' ' || c == '\t' || c == '\n' || c == '\r'

/-! ### Texts -/

/-- The character that a one-letter escape stands for. -/
def escape? : Char → Option Char
  | '"' => some '"'
  | '\\' => some '\\'
  | '/' => some '/'
  | 'b' => some '\x08'
  | 'f' => some '\x0c'
  | 'n' => some '\n'
  | 'r' => some '\r'
  | 't' => some '\t'
  | _ => none

/-- Whether a code unit is the first of a surrogate pair. -/
def isHighSurrogate (n : Nat) : Bool := 0xd800 ≤ n && n < 0xdc00

/-- Whether a code unit is the second of a surrogate pair. -/
def isLowSurrogate (n : Nat) : Bool := 0xdc00 ≤ n && n < 0xe000

/-- The character of a surrogate pair. -/
def pairChar (high low : Nat) : Char :=
  Char.ofNat (0x10000 + (high - 0xd800) * 0x400 + (low - 0xdc00))

/-- The four digits of an escaped code unit, with what follows them. -/
def codeUnit? : List Char → Option (Nat × List Char)
  | a :: b :: c :: d :: rest => (hexValue? [a, b, c, d]).map (·, rest)
  | _ => none

/-- The character of an escaped code unit, or of an escaped pair of them, with what follows. -/
def codeEscape? (cs : List Char) : Option (Char × List Char) :=
  match codeUnit? cs with
  | none => none
  | some (unit, rest) =>
    if isLowSurrogate unit then none
    else if isHighSurrogate unit then
      match rest with
      | '\\' :: 'u' :: rest =>
        match codeUnit? rest with
        | some (low, rest) => if isLowSurrogate low then some (pairChar unit low, rest) else none
        | none => none
      | _ => none
    else some (Char.ofNat unit, rest)

/-- The first character of a text's written form, with what follows it. -/
def textChar? : List Char → Option (Char × List Char)
  | '\\' :: 'u' :: rest => codeEscape? rest
  | '\\' :: c :: rest => (escape? c).map (·, rest)
  | c :: rest => if c = '\\' ∨ c.toNat < 0x20 then none else some (c, rest)
  | [] => none

/-- A text up to its closing quote, with what follows; `done` holds the characters read so far,
the last one first.  Every character takes at least one step of the fuel. -/
def scanText (fuel : Nat) (done cs : List Char) : Option (String × List Char) :=
  match fuel with
  | 0 => none
  | fuel + 1 =>
    match cs with
    | '"' :: rest => some (.ofList done.reverse, rest)
    | cs =>
      match textChar? cs with
      | some (c, rest) => scanText fuel (c :: done) rest
      | none => none

/-! ### Words -/

/-- The characters of numbers and named constants. -/
def isWordChar (c : Char) : Bool :=
  c.isAlphanum || c == '-' || c == '+' || c == '.'

/-- A row of decimal digits as a number. -/
def digitsValue (cs : List Char) : Nat :=
  cs.foldl (fun n c => n * 10 + (c.toNat - '0'.toNat)) 0

/-- The most digits that a number may have before its point; the sign is not one of them. -/
def maxWholeDigits : Nat := 4300

/-- The exponent of a number: a letter, an optional sign, digits.  Nothing is the exponent zero. -/
def exponent? : List Char → Option Int
  | [] => some 0
  | mark :: rest =>
    if mark = 'e' ∨ mark = 'E' then
      let (negative, digits) := match rest with
        | '-' :: ds => (true, ds)
        | '+' :: ds => (false, ds)
        | ds => (false, ds)
      if digits.isEmpty || !digits.all Char.isDigit then none
      else some (if negative then -(digitsValue digits : Int) else digitsValue digits)
    else none

/-- A number above or equal to zero: digits without a needless zero in front, an optional fraction
and an optional exponent. -/
def magnitude? (negative : Bool) (cs : List Char) : Option Json :=
  let whole := cs.takeWhile Char.isDigit
  if whole.isEmpty || (whole.length > 1 && whole.head? == some '0') then none
  else if whole.length > maxWholeDigits then none
  else
    match cs.dropWhile Char.isDigit with
    | [] =>
      let n : Int := digitsValue whole
      some (.int (if negative then -n else n))
    | '.' :: rest =>
      let fraction := rest.takeWhile Char.isDigit
      if fraction.isEmpty then none
      else
        (exponent? (rest.dropWhile Char.isDigit)).map fun e =>
          .float (.ofDecimal negative (digitsValue (whole ++ fraction)) (e - fraction.length))
    | rest => (exponent? rest).map fun e => .float (.ofDecimal negative (digitsValue whole) e)

/-- The value of a word. -/
def word? (cs : List Char) : Option Json :=
  match String.ofList cs with
  | "null" => some .null
  | "true" => some (.bool true)
  | "false" => some (.bool false)
  | "NaN" => some (.float .nan)
  | "Infinity" => some (.float (.infinite false))
  | "-Infinity" => some (.float (.infinite true))
  | _ =>
    match cs with
    | '-' :: rest => magnitude? true rest
    | _ => magnitude? false cs

/-! ### Whole texts -/

/-- The tokens of a text; `done` holds those found so far, the last one first.  Every token and
every blank takes one step of the fuel, which is more than there are characters left. -/
def scanTokens (fuel : Nat) (done : List Token) (cs : List Char) : Option (List Token) :=
  match fuel with
  | 0 => none
  | fuel + 1 =>
    match cs with
    | [] => some done.reverse
    | c :: rest =>
      if isSpace c then scanTokens fuel done rest
      else if c = '"' then
        match scanText fuel [] rest with
        | some (s, rest) => scanTokens fuel (.text s :: done) rest
        | none => none
      else
        match mark? c with
        | some token => scanTokens fuel (token :: done) rest
        | none =>
          let cs := c :: rest
          match word? (cs.takeWhile isWordChar) with
          | some value => scanTokens fuel (.atom value :: done) (cs.dropWhile isWordChar)
          | none => none

/-- The tokens of a text, unless one is malformed. -/
def tokens? (cs : List Char) : Option (List Token) :=
  scanTokens (cs.length + 1) [] cs

end Json

end WorkspaceWatch
