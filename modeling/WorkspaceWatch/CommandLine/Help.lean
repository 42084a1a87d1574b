/-
**Help texts.**

A help text shows how a command is called, what it does, and its options; that of the program also
shows the commands.  Tables have two columns, the first as wide as its widest entry up to a limit;
an entry wider than that has the second column begin on the next line.

Main definitions:

* `WorkspaceWatch.Help.usage`: how a command is called;
* `WorkspaceWatch.Help.text`: the help text of a command;
* `WorkspaceWatch.Help.wrap`: a text in lines of a width.
-/

import WorkspaceWatch.CommandLine.Syntax

set_option autoImplicit false

namespace WorkspaceWatch

namespace Help

/-- The width of a help text. -/
def width : Nat := 78

/-- The widest a first column can be. -/
def maxFirstColumn : Nat := 30

/-- The space between two columns. -/
def columnSpace : Nat := 2

/-- The space before a table and before a description. -/
def indent : Nat := 2

/-- Some blanks. -/
def blanks (n : Nat) : String := .ofList (List.replicate n ' ')

/-! ### Lines -/

/-- The words of a text, each with the number of blanks before it. -/
def spacedWords (cs : List Char) : List (Nat × String) :=
  let (words, space, word) := cs.foldl (fun (words, space, word) c =>
    if c = ' ' then
      if word.isEmpty then (words, space + 1, word)
      else ((space, String.ofList word.reverse) :: words, 1, [])
    else (words, space, c :: word)) (([], 0, []) : List (Nat × String) × Nat × List Char)
  (if word.isEmpty then words else (space, .ofList word.reverse) :: words).reverse

/-- Words put into lines of a width, `line` being the one that is filled; blanks at the end of a
line are dropped. -/
def fillLines (width : Nat) (line : String) : List (Nat × String) → List String
  | [] => if line = "" then [] else [line]
  | (space, word) :: rest =>
    if line = "" then fillLines width word rest
    else if line.length + space + word.length ≤ width then
      fillLines width (line ++ blanks space ++ word) rest
    else line :: fillLines width word rest

/-- A text in lines of a width. -/
def wrap (width : Nat) (s : String) : List String :=
  fillLines width "" (spacedWords s.toList)

/-! ### Tables -/

/-- A row of a table in lines, given where its second column begins. -/
def rowLines (column : Nat) (row : String × String) : List String :=
  let (first, second) := row
  let front := blanks indent ++ first
  match wrap (width - column - indent) second with
  | [] => [front]
  | line :: lines =>
    let below := lines.map (blanks (indent + column) ++ ·)
    if first.length + columnSpace ≤ column then
      (front ++ blanks (column - first.length) ++ line) :: below
    else front :: (blanks (indent + column) ++ line) :: below

/-- A table under its title, in lines. -/
def table (title : String) (rows : List (String × String)) : List String :=
  let widest := (rows.map (·.1.length)).foldl max 0
  let column := min widest maxFirstColumn + columnSpace
  (title ++ ":") :: rows.flatMap (rowLines column)

/-- The row of an option. -/
def optionRow (o : OptionSpec) : String × String :=
  let first := match o.kind? with
    | some kind => o.name ++ " " ++ kind.placeholder
    | none => o.name
  let second := match o.standIn? with
    | some value =>
      (if o.note = "" then "" else o.note ++ "  ") ++ "[default: " ++ value ++ "]"
    | none => o.note
  (first, second)

/-! ### Short descriptions -/

/-- The words of a description that fit a limit, with dots for those that do not. -/
def shorten (limit : Nat) (s : String) : String :=
  if s.length ≤ limit then s
  else
    let words := (spacedWords s.toList).map (·.2)
    let kept := words.foldl (fun (line, full) word =>
      let longer := if line = "" then word else line ++ " " ++ word
      if full || longer.length + 3 > limit then (line, true) else (longer, false))
      (("", false) : String × Bool)
    kept.1 ++ "..."

/-- The table of the commands. -/
def commandRows : List (String × String) :=
  let widest := (Verb.all.map (·.word.length)).foldl max 0
  Verb.all.map fun v => (v.word, shorten (width - 6 - widest) v.note)

/-! ### Whole texts -/

/-- How a command is called. -/
def usage (c : CommandSpec) : String :=
  let rest := match c.argument? with
    | some a => if a.required then " " ++ a.name else " [" ++ a.name ++ "]"
    | none => if c.path.length = 1 then " COMMAND [ARGS]..." else ""
  "Usage: " ++ c.title ++ " [OPTIONS]" ++ rest

/-- The help text of a command. -/
def text (c : CommandSpec) : String :=
  let commands := if c.path.length = 1 then "" :: table "Commands" commandRows else []
  let lines := [usage c, ""] ++ (wrap (width - indent) c.note).map (blanks indent ++ ·) ++ [""] ++
    table "Options" (c.allOptions.map optionRow) ++ commands
  "".intercalate (lines.map (· ++ "\n"))

end Help

end WorkspaceWatch
