/-
**The text of a settings file.**

A settings file binds names to values, one binding a line.  A name may be quoted, and may stand
after the word `export`; a value may be quoted with single or double quotes and then go over
several lines.  A hash sign after a blank begins a comment.  What cannot be read is skipped up to
the end of its line and reported by the number of the line.

Main definitions:

* `WorkspaceWatch.SettingsFile.Statement`: a binding, an empty line, or one that cannot be read;
* `WorkspaceWatch.SettingsFile.statements`: the statements of a text;
* `WorkspaceWatch.SettingsFile.expand`: a value with the names in it replaced;
* `WorkspaceWatch.SettingsFile.written`: the bindings of a text as they are written;
* `WorkspaceWatch.SettingsFile.bindings`: the names of a text with their values.
-/

import WorkspaceWatch.Json.Basic
import WorkspaceWatch.Text.Blank

set_option autoImplicit false

namespace WorkspaceWatch

namespace SettingsFile

/-- A statement of a settings file: a name, with its value if it has one; nothing, or a comment; or
something that cannot be read, by the line it begins in. -/
inductive Statement where
  | binding (name : String) (value? : Option String)
  | empty
  | unreadable (line : Nat)
deriving DecidableEq, Repr

/-- The text with one kind of line end. -/
def unifyLineEnds : List Char → List Char
  | [] => []
  | '\r' :: '\n' :: rest => '\n' :: unifyLineEnds rest
  | '\r' :: rest => '\n' :: unifyLineEnds rest
  | c :: rest => c :: unifyLineEnds rest

/-- A blank inside a line. -/
def isLineBlank (c : Char) : Bool := isBlank c && c != '\n'

/-- The characters after the blanks inside the line. -/
def skipBlanks (cs : List Char) : List Char := cs.dropWhile isLineBlank

/-- The word `export` and the blanks after it passed over, if they are there. -/
def skipExport (cs : List Char) : List Char :=
  match cs with
  | 'e' :: 'x' :: 'p' :: 'o' :: 'r' :: 't' :: c :: rest =>
    if isLineBlank c then skipBlanks rest else cs
  | _ => cs

/-- The name at the front, with what follows; a comment has none. -/
def scanName? (cs : List Char) : Option (Option (List Char) × List Char) :=
  match cs with
  | '#' :: _ => some (none, cs)
  | '\x27' :: rest =>
    let name := rest.takeWhile (· != '\x27')
    match rest.drop name.length with
    | _ :: after => if name.isEmpty then none else some (some name, after)
    | [] => none
  | _ =>
    let name := cs.takeWhile fun c => c != '=' && c != '#' && !isBlank c
    if name.isEmpty then none else some (some name, cs.drop name.length)

/-- The characters up to the closing quote, with what follows.  A quote behind a backslash closes
the value only if no other does; `fallback` is the last of those, `done` the characters so far, the
last one first. -/
def scanQuoted? (quote : Char) (fallback : Option (List Char × List Char)) (done : List Char) :
    List Char → Option (List Char × List Char)
  | [] => fallback
  | '\\' :: c :: rest =>
    if c = quote then
      scanQuoted? quote (some (('\\' :: done).reverse, rest)) (c :: '\\' :: done) rest
    else scanQuoted? quote fallback ('\\' :: done) (c :: rest)
  | c :: rest =>
    if c = quote then some (done.reverse, rest) else scanQuoted? quote fallback (c :: done) rest
termination_by cs => cs.length

/-- What an escape in single quotes stands for. -/
def singleEscape? : Char → Option Char
  | '\\' => some '\\'
  | '\x27' => some '\x27'
  | _ => none

/-- What an escape in double quotes stands for. -/
def doubleEscape? : Char → Option Char
  | '\\' => some '\\'
  | '\x27' => some '\x27'
  | '"' => some '"'
  | 'a' => some '\x07'
  | 'b' => some '\x08'
  | 'f' => some '\x0c'
  | 'n' => some '\n'
  | 'r' => some '\r'
  | 't' => some '\t'
  | 'v' => some '\x0b'
  | _ => none

/-- A quoted value with its escapes undone; other backslashes stand for themselves. -/
def unescape (escape? : Char → Option Char) : List Char → List Char
  | '\\' :: c :: rest =>
    match escape? c with
    | some d => d :: unescape escape? rest
    | none => '\\' :: unescape escape? (c :: rest)
  | c :: rest => c :: unescape escape? rest
  | [] => []
termination_by cs => cs.length

/-- A value without quotes up to its comment, which begins with a hash sign after a blank. -/
def dropComment (afterBlank : Bool) : List Char → List Char
  | [] => []
  | c :: rest => if afterBlank && c = '#' then [] else c :: dropComment (isBlank c) rest

/-- The value at the front, with what follows; `afterBlank` says whether a blank stands before
it. -/
def scanValue? (afterBlank : Bool) (cs : List Char) : Option (List Char × List Char) :=
  match cs with
  | '\x27' :: rest => (scanQuoted? '\x27' none [] rest).map fun (v, rest) =>
      (unescape singleEscape? v, rest)
  | '"' :: rest => (scanQuoted? '"' none [] rest).map fun (v, rest) =>
      (unescape doubleEscape? v, rest)
  | _ =>
    let line := cs.takeWhile (· != '\n')
    some (trimEnd isBlank (dropComment afterBlank line), cs.drop line.length)

/-- What follows a comment, if there is one. -/
def skipComment (cs : List Char) : List Char :=
  match skipBlanks cs with
  | '#' :: rest => rest.dropWhile (· != '\n')
  | _ => cs

/-- What follows the end of a line, if the line ends here. -/
def lineEnd? (cs : List Char) : Option (List Char) :=
  match skipBlanks cs with
  | [] => some []
  | '\n' :: rest => some rest
  | _ => none

/-- The binding at the front, with what follows; or, if it cannot be read, the place where reading
stopped. -/
def scanBinding (cs : List Char) :
    Except (List Char) (Option (List Char × Option (List Char)) × List Char) :=
  match skipExport cs with
  | cs =>
    match scanName? cs with
    | none => .error cs
    | some (name?, rest) =>
      let rest := skipBlanks rest
      let valued : Option (Option (List Char) × List Char) :=
        match rest with
        | '=' :: after =>
          let value := skipBlanks after
          (scanValue? (value.length < after.length) value).map fun (v, rest) => (some v, rest)
        | rest => some (none, rest)
      match valued with
      | none => .error ((rest.drop 1).dropWhile isLineBlank)
      | some (value?, rest) =>
        let rest := skipComment rest
        match lineEnd? rest with
        | none => .error rest
        | some rest => .ok (name?.map (·, value?), rest)

/-- The statements from some place on; every one takes at least one step of the fuel.  `lines` is
the number of line ends of the whole text. -/
def statementsFrom (lines : Nat) : Nat → List Char → List Statement
  | 0, _ => []
  | _, [] => []
  | fuel + 1, cs =>
    match cs.dropWhile isBlank with
    | [] => []
    | start =>
      match scanBinding start with
      | .ok (none, rest) => .empty :: statementsFrom lines fuel rest
      | .ok (some (name, value?), rest) =>
        .binding (.ofList name) (value?.map .ofList) :: statementsFrom lines fuel rest
      | .error stopped =>
        .unreadable (lines - cs.count '\n' + 1) ::
          statementsFrom lines fuel ((stopped.dropWhile (· != '\n')).drop 1)

/-- The statements of a text. -/
def statements (text : String) : List Statement :=
  let cs := unifyLineEnds (match text.toList with
    | '\ufeff' :: rest => rest
    | cs => cs)
  statementsFrom (cs.count '\n') cs.length cs

/-- The lines of a text that cannot be read. -/
def unreadableLines (text : String) : List Nat :=
  (statements text).filterMap fun
    | .unreadable line => some line
    | _ => none

/-! ### Names inside values -/

/-- A name in braces behind a dollar sign, perhaps with a value that stands in for an unknown one,
and what follows it. -/
def scanVariable? : List Char → Option (List Char × List Char × List Char)
  | '$' :: '{' :: rest =>
    let name := rest.takeWhile fun c => c != '}' && c != ':'
    match rest.drop name.length with
    | '}' :: after => some (name, [], after)
    | ':' :: '-' :: after =>
      let standIn := after.takeWhile (· != '}')
      match after.drop standIn.length with
      | _ :: after => some (name, standIn, after)
      | [] => none
    | _ => none
  | _ => none

/-- A value with the names in it replaced; every character takes at most one step of the fuel. -/
def expandFrom (look : String → Option (Option String)) : Nat → List Char → List Char
  | 0, _ => []
  | _, [] => []
  | fuel + 1, c :: rest =>
    match scanVariable? (c :: rest) with
    | some (name, standIn, after) =>
      let value := match look (.ofList name) with
        | some value? => (value?.getD "").toList
        | none => standIn
      value ++ expandFrom look fuel after
    | none => c :: expandFrom look fuel rest

/-- A value with the names in it replaced.  A known name without a value stands for nothing. -/
def expand (look : String → Option (Option String)) (value : String) : String :=
  .ofList (expandFrom look value.toList.length value.toList)

/-- The name and the value of a statement that binds one. -/
def Statement.binding? : Statement → Option (String × Option String)
  | binding name value? => some (name, value?)
  | _ => none

/-- The bindings of a text as they are written, with the names in their values. -/
def written (text : String) : List (String × Option String) :=
  (statements text).filterMap Statement.binding?

/-- What a name in a value stands for: its value further up in the text, or else in the
environment. -/
def known (environment : List (String × String)) (bound : List (String × Option String))
    (name : String) : Option (Option String) :=
  match bound.lookup name with
  | some value? => some value?
  | none => (environment.lookup name).map some

/-- Bindings with one more, whose value may have the names bound so far in it. -/
def bindNext (environment : List (String × String)) (bound : List (String × Option String))
    (b : String × Option String) : List (String × Option String) :=
  Json.insert bound b.1 (b.2.map (expand (known environment bound)))

/-- The names of a text with their values. -/
def bindings (environment : List (String × String)) (text : String) :
    List (String × Option String) :=
  (written text).foldl (bindNext environment) []

end SettingsFile

end WorkspaceWatch
