/-
**Text in quotes.**

Messages show a text in quotes, so that its ends and its invisible characters can be seen.  The
mark is the single quote, unless the text holds single quotes and no double ones.  The mark, the
backslash and all that is not printable are escaped.

Main definitions:

* `WorkspaceWatch.quoted`: the quoted form;
* `WorkspaceWatch.quotedAscii`: the quoted form with everything outside ASCII escaped too.
-/

import WorkspaceWatch.Text.Printable
import WorkspaceWatch.Text.Hexadecimal

set_option autoImplicit false

namespace WorkspaceWatch

/-- The mark a text is quoted with. -/
def quoteMark (cs : List Char) : Char :=
  if '\x27' ∈ cs ∧ '"' ∉ cs then '"' else '\x27'

/-- A character by its code point, in the shortest of the three forms that holds it. -/
def codePointEscape (c : Char) : List Char :=
  if c.toNat < 0x100 then '\\' :: 'x' :: hexText 2 c.toNat
  else if c.toNat < 0x10000 then '\\' :: 'u' :: hexText 4 c.toNat
  else '\\' :: 'U' :: hexText 8 c.toNat

/-- One character of a quoted text; `keep` says which characters stand for themselves. -/
def quotedChar (keep : Char → Bool) (mark c : Char) : List Char :=
  if c = mark ∨ c = '\\' then ['\\', c]
  else if c = '\n' then ['\\', 'n']
  else if c = '\r' then ['\\', 'r']
  else if c = '\t' then ['\\', 't']
  else if keep c then [c]
  else codePointEscape c

/-- A text in quotes; `keep` says which characters stand for themselves. -/
def quotedKeeping (keep : Char → Bool) (s : String) : String :=
  let mark := quoteMark s.toList
  .ofList (mark :: s.toList.flatMap (quotedChar keep mark) ++ [mark])

/-- A text in quotes, printable characters kept. -/
def quoted (s : String) : String :=
  quotedKeeping isPrintable s

/-- A text in quotes, printable ASCII characters kept. -/
def quotedAscii (s : String) : String :=
  quotedKeeping (fun c => isPrintable c && c.toNat < 0x80) s

end WorkspaceWatch
