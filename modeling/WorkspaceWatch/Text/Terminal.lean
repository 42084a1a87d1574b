/-
**Text for terminals.**

An escape sequence tells a terminal how to show what follows: the escape character, an opening
bracket, parameters, and a letter.  Text that is not printed on a terminal is printed without them.

Main definitions:

* `WorkspaceWatch.escapeLength?`: how far an escape sequence goes;
* `WorkspaceWatch.withoutEscapes`: a text without its escape sequences.
-/

set_option autoImplicit false

namespace WorkspaceWatch

/-- The character that begins an escape sequence. -/
def escapeChar : Char := '\x1b'

/-- The characters that may stand between the bracket and the letter. -/
def isEscapeParameter (c : Char) : Bool :=
  c.isDigit || c == ';' || c == '?'

/-- How many characters of an escape sequence follow its first one, if there is one. -/
def escapeLength? : List Char → Option Nat
  | '[' :: cs =>
    match cs.dropWhile isEscapeParameter with
    | c :: _ => if c.isAlpha then some ((cs.takeWhile isEscapeParameter).length + 2) else none
    | [] => none
  | _ => none

/-- The characters of a text without its escape sequences; the first `skip` of them belong to one
that has begun. -/
def dropEscapes : Nat → List Char → List Char
  | _, [] => []
  | skip + 1, _ :: rest => dropEscapes skip rest
  | 0, c :: rest =>
    if c = escapeChar then
      match escapeLength? rest with
      | some n => dropEscapes n rest
      | none => c :: dropEscapes 0 rest
    else c :: dropEscapes 0 rest

/-- A text without its escape sequences. -/
def withoutEscapes (s : String) : String :=
  .ofList (dropEscapes 0 s.toList)

end WorkspaceWatch
