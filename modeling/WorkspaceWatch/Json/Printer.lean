/-
**Writing JSON.**

Values are written without blanks, and characters outside ASCII as themselves.  In a text the
quote, the backslash and the control characters below the space are escaped.

Main definitions:

* `WorkspaceWatch.Json.compact`: the written form of a value.
-/

import WorkspaceWatch.Json.Basic
import WorkspaceWatch.Number.Notation
import WorkspaceWatch.Text.Hexadecimal

set_option autoImplicit false

namespace WorkspaceWatch

namespace Json

/-- One character of a text's written form. -/
def writtenChar (c : Char) : List Char :=
  match c with
  | '"' => ['\\', '"']
  | '\\' => ['\\', '\\']
  | '\n' => ['\\', 'n']
  | '\r' => ['\\', 'r']
  | '\t' => ['\\', 't']
  | '\x08' => ['\\', 'b']
  | '\x0c' => ['\\', 'f']
  | c => if c.toNat < 0x20 then '\\' :: 'u' :: hexText 4 c.toNat else [c]

/-- A text between quotes. -/
def writtenText (s : String) : List Char :=
  '"' :: s.toList.flatMap writtenChar ++ ['"']

/-- The written form of a number. -/
def writtenFloat : Binary64 → List Char
  | .nan => "NaN".toList
  | .infinite negative => (if negative then "-Infinity" else "Infinity").toList
  | x => x.text.toList

mutual

/-- The written form of a value, without blanks. -/
def written : Json → List Char
  | null => "null".toList
  | bool b => (if b then "true" else "false").toList
  | int n => (toString n).toList
  | float x => writtenFloat x
  | text s => writtenText s
  | array [] => ['[', ']']
  | array (x :: xs) => '[' :: written x ++ writtenItems xs
  | object [] => ['{', '}']
  | object ((k, v) :: xs) => '{' :: writtenText k ++ ':' :: written v ++ writtenEntries xs

/-- The items after the first, each behind a comma, and the closing bracket. -/
def writtenItems : List Json → List Char
  | [] => [']']
  | x :: xs => ',' :: written x ++ writtenItems xs

/-- The entries after the first, each behind a comma, and the closing brace. -/
def writtenEntries : List (String × Json) → List Char
  | [] => ['}']
  | (k, v) :: xs => ',' :: writtenText k ++ ':' :: written v ++ writtenEntries xs

end

/-- The written form of a value, as a text. -/
def compact (v : Json) : String :=
  .ofList (written v)

end Json

end WorkspaceWatch
