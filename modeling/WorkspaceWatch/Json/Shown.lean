/-
**Values as messages show them.**

A message that names a value shows it with spaced lists, texts in quotes, and words for the three
constants.

Main definitions:

* `WorkspaceWatch.Json.shown`: the form of a value inside a message;
* `WorkspaceWatch.Json.plain`: the form of a value that is the message.
-/

import WorkspaceWatch.Json.Basic
import WorkspaceWatch.Number.Notation
import WorkspaceWatch.Text.Quoted

set_option autoImplicit false

namespace WorkspaceWatch

namespace Json

/-- A value without parts inside a message; `quote` says how texts are quoted. -/
def shownLeaf (quote : String → String) : Json → String
  | null => "None"
  | bool b => if b then "True" else "False"
  | int n => toString n
  | float x => x.text
  | text s => quote s
  | array _ => "[]"
  | object _ => "\x7b\x7d"

/-- A value inside a message, to a depth of nesting; `quote` says how texts are quoted. -/
def shownTo (quote : String → String) : Nat → Json → String
  | depth + 1, array items =>
    "[" ++ ", ".intercalate (items.map (shownTo quote depth)) ++ "]"
  | depth + 1, object entries =>
    "\x7b" ++ ", ".intercalate ((unique entries).map fun (k, v) =>
      quote k ++ ": " ++ shownTo quote depth v) ++ "\x7d"
  | _, v => shownLeaf quote v

/-- A value inside a message. -/
def shown (v : Json) : String :=
  shownTo quoted (depth v) v

/-- A value inside a message that is to be ASCII. -/
def shownAscii (v : Json) : String :=
  shownTo quotedAscii (depth v) v

/-- A value as a message of its own: a text stands for itself. -/
def plain : Json → String
  | text s => s
  | v => shown v

end Json

end WorkspaceWatch
