/-
**Filling in a template.**

The names a template may use stand for texts.  A field may go on from a text to one of its
characters or to its type; the type has a few names of its own.  A layout that holds fields is
filled in first, and the layouts of those fields hold none.

Main definitions:

* `WorkspaceWatch.Template.render`: a template filled in.

Main results:

* `WorkspaceWatch.Template.render_escape`: an escaped text renders to itself.
-/

import WorkspaceWatch.Template.Layout

set_option autoImplicit false

namespace WorkspaceWatch

namespace Template

/-- What a field can reach: a text, or a type, by its name. -/
inductive Reached where
  | text (cs : List Char)
  | type (name : String)
deriving DecidableEq, Repr

/-- One step on from what a field has reached: to an attribute, or to an index, which may be a
number or not. -/
inductive Step where
  | attribute (name : String)
  | index (position : Nat)
  | named
deriving DecidableEq, Repr

/-- The number that a name stands for, if it is one. -/
def nameNumber? (cs : List Char) : Except TemplateError (Option Nat) := do
  match ← scanNumber none cs with
  | (some n, []) => return some n
  | _ => return none

/-- The step at the front of a path, with what follows. -/
def scanStep : List Char → Except TemplateError (Step × List Char)
  | '.' :: rest =>
    let name := rest.takeWhile fun c => c != '.' && c != '['
    if name.isEmpty then .error .emptyAttribute
    else .ok (.attribute (.ofList name), rest.drop name.length)
  | '[' :: rest =>
    let name := rest.takeWhile (· != ']')
    match rest.drop name.length with
    | [] => .error .bracketUnclosed
    | _ :: after => do
      let number? ← nameNumber? name
      if name.isEmpty then throw .emptyAttribute
      return ((match number? with
        | some n => .index n
        | none => .named), after)
  | _ => .error .afterBracket

/-- What the type of texts says about itself. -/
def textTypeNote : String :=
  "str(object='') -> str\nstr(bytes_or_buffer[, encoding[, errors]]) -> str\n\n" ++
  "Create a new string object from the given object. If encoding or\n" ++
  "errors is specified, then the object must expose a data buffer\n" ++
  "that will be decoded using the given encoding and error handler.\n" ++
  "Otherwise, returns the result of object.__str__() (if defined)\n" ++
  "or repr(object).\nencoding defaults to sys.getdefaultencoding().\n" ++
  "errors defaults to 'strict'."

/-- An attribute of what was reached. -/
def Reached.attribute (name : String) : Reached → Except TemplateError Reached
  | .text _ =>
    if name = "__class__" then .ok (.type "str")
    else if name = "__doc__" then .ok (.text textTypeNote.toList)
    else .error (.noTextAttribute name)
  | .type owner =>
    if name = "__class__" then .ok (.type "type")
    else if name = "__name__" ∨ name = "__qualname__" then .ok (.text owner.toList)
    else if name = "__module__" then .ok (.text "builtins".toList)
    else if name = "__base__" ∧ owner ≠ "object" then .ok (.type "object")
    else if name = "__doc__" ∧ owner = "str" then .ok (.text textTypeNote.toList)
    else .error (.noTypeAttribute owner name)

/-- One step on. -/
def Reached.step (r : Reached) : Step → Except TemplateError Reached
  | .attribute name => r.attribute name
  | .index n =>
    match r with
    | .text cs =>
      match cs[n]? with
      | some c => .ok (.text [c])
      | none => .error .indexRange
    | .type owner => .error (.typeNotIndexed owner)
  | .named =>
    match r with
    | .text _ => .error .indexNotNumber
    | .type owner => .error (.typeNotIndexed owner)

/-- Every step of a path; each takes at least one step of the fuel. -/
def Reached.follow (r : Reached) : Nat → List Char → Except TemplateError Reached
  | 0, _ => .ok r
  | _, [] => .ok r
  | fuel + 1, path => do
    let (step, rest) ← scanStep path
    (← r.step step).follow fuel rest

/-- The plain form of what was reached. -/
def Reached.plain : Reached → List Char
  | .text cs => cs
  | .type name => ("<class '" ++ name ++ "'>").toList

/-- The form of what was reached that a conversion asks for. -/
def Reached.convert (r : Reached) (mark : Char) : Except TemplateError Reached :=
  match mark with
  | 's' => .ok (.text r.plain)
  | 'r' => .ok (.text (match r with
      | .text cs => (quoted (.ofList cs)).toList
      | r => r.plain))
  | 'a' => .ok (.text (match r with
      | .text cs => (quotedAscii (.ofList cs)).toList
      | r => r.plain))
  | _ => .error (.unknownConversion mark)

/-- What was reached in a layout. -/
def Reached.layOut (layout : List Char) : Reached → Except TemplateError (List Char)
  | .text cs => Layout.apply layout cs
  | r => if layout.isEmpty then .ok r.plain else .error .typeLayout

/-- What a field's name reaches.  There are no arguments by position, so a field without a name and
one with a number reach nothing. -/
def reach (names : List (String × String)) (path : List Char) : Except TemplateError Reached := do
  let first := path.takeWhile fun c => c != '.' && c != '['
  if first.isEmpty then throw (.noArgument 0)
  match ← nameNumber? first with
  | some n => throw (.noArgument n)
  | none =>
    match names.lookup (.ofList first) with
    | none => throw (.unknownName (.ofList first))
    | some value => (Reached.text value.toList).follow path.length (path.drop first.length)

/-- What stands in the place of a piece, given how a layout with fields is filled in. -/
def fill (names : List (String × String)) (inner : List Char → Except TemplateError (List Char)) :
    Piece → Except TemplateError (List Char)
  | .literal c => .ok [c]
  | .broken e => .error e
  | .field f => do
    let r ← reach names f.name
    let r ← match f.conversion? with
      | some mark => r.convert mark
      | none => pure r
    let layout ← if f.layoutHasFields then inner f.layout else pure f.layout
    r.layOut layout

/-- A template filled in, its layouts holding fields down to a depth. -/
def expand (names : List (String × String)) : Nat → List Char → Except TemplateError (List Char)
  | 0, _ => .error .tooDeep
  | depth + 1, template =>
    ((pieces template).mapM (fill names (expand names depth))).map List.flatten

/-- A template filled in. -/
def render (names : List (String × String)) (template : String) : Except TemplateError String :=
  (expand names 2 template.toList).map .ofList

/-- Literal characters stand for themselves. -/
theorem mapM_fill_literal (names : List (String × String))
    (inner : List Char → Except TemplateError (List Char)) (cs : List Char) :
    (cs.map Piece.literal).mapM (fill names inner) = .ok (cs.map fun c => [c]) := by
  induction cs with
  | nil => rfl
  | cons c cs ih => simp [fill, ih, bind, Except.bind, pure, Except.pure]

theorem flatten_map_singleton (cs : List Char) : (cs.map fun c => [c]).flatten = cs := by
  induction cs with
  | nil => rfl
  | cons c cs ih => simp [ih]

/-- An escaped text renders to itself. -/
theorem render_escape (names : List (String × String)) (cs : List Char) :
    render names (.ofList (escape cs)) = .ok (.ofList cs) := by
  simp only [render, expand, String.toList_ofList, pieces_escape, mapM_fill_literal, Except.map,
    flatten_map_singleton]

end Template

end WorkspaceWatch
