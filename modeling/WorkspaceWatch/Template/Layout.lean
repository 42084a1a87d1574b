/-
**Layouts of texts.**

The layout of a field says how a text is filled up to a width, on which side, and how many of its
characters are kept.  Layouts are shared with numbers; what makes sense for numbers only is read
and refused.

Main definitions:

* `WorkspaceWatch.Template.Layout`, `WorkspaceWatch.Template.Layout.read`: layouts;
* `WorkspaceWatch.Template.Layout.apply`: a text in a layout.
-/

import WorkspaceWatch.Template.Basic

set_option autoImplicit false

namespace WorkspaceWatch

namespace Template

/-- Where a text stands in its width; a number may also have its sign at the left and its digits at
the right. -/
inductive Align where
  | left
  | right
  | center
  | afterSign
deriving DecidableEq, Repr

/-- The mark of an alignment. -/
def Align.ofMark? : Char → Option Align
  | '<' => some left
  | '>' => some right
  | '^' => some center
  | '=' => some afterSign
  | _ => none

/-- A layout as it is written. -/
structure Layout where
  /-- What is filled up with. -/
  fill : Char
  /-- The side. -/
  align : Align
  /-- The sign a number is to have. -/
  sign? : Option Char
  /-- Whether a negative zero is to lose its sign. -/
  plainZero : Bool
  /-- Whether the alternate form is asked for. -/
  alternate : Bool
  /-- The least number of characters. -/
  width? : Option Nat
  /-- The separator of thousands. -/
  separator? : Option Char
  /-- The greatest number of characters kept. -/
  precision? : Option Nat
  /-- The presentation; texts know only one. -/
  presentation : Char
deriving DecidableEq, Repr

/-- The greatest number a layout may hold. -/
def maxNumber : Nat := 0x7fffffffffffffff

/-- The greatest width that a text can be filled up to. -/
def maxRoom : Nat := 0xffffffff

/-- The digits at the front as a number, with what follows; no number if there are none.  A number
too large is an error even if no layout could use it. -/
def scanNumber (found : Option Nat) : List Char → Except TemplateError (Option Nat × List Char)
  | [] => .ok (found, [])
  | c :: rest =>
    match decimalDigit? c with
    | none => .ok (found, c :: rest)
    | some d =>
      let n := found.getD 0
      if n > (maxNumber - d) / 10 then .error .tooManyDigits
      else scanNumber (some (n * 10 + d)) rest

/-- A mark at the front, with what follows. -/
def scanMark (mark : Char) : List Char → Bool × List Char
  | [] => (false, [])
  | c :: rest => if c = mark then (true, rest) else (false, c :: rest)

/-- Fill and alignment at the front, with what follows. -/
def scanAlign : List Char → Option Char × Option Align × List Char
  | fill :: mark :: rest =>
    match Align.ofMark? mark with
    | some align => (some fill, some align, rest)
    | none =>
      match Align.ofMark? fill with
      | some align => (none, some align, mark :: rest)
      | none => (none, none, fill :: mark :: rest)
  | [mark] =>
    match Align.ofMark? mark with
    | some align => (none, some align, [])
    | none => (none, none, [mark])
  | [] => (none, none, [])

/-- The separators of thousands at the front, with what follows. -/
def scanSeparator (cs : List Char) : Except TemplateError (Option Char × List Char) :=
  let (comma, cs) := scanMark ',' cs
  let (underscore, cs) := scanMark '_' cs
  if comma && underscore then .error .bothSeparators
  else if underscore && cs.head? == some ',' then .error .bothSeparators
  else .ok (if comma then some ',' else if underscore then some '_' else none, cs)

/-- Whether a separator of thousands goes with a presentation. -/
def separatorFits (separator presentation : Char) : Bool :=
  ['d', 'e', 'f', 'g', 'E', 'G', '%', 'F'].contains presentation ||
    (separator == '_' && ['b', 'o', 'x', 'X'].contains presentation)

/-- The layout that a text stands for. -/
def Layout.read (cs : List Char) : Except TemplateError Layout := do
  let (fill?, align?, rest) := scanAlign cs
  let (sign?, rest) := match rest with
    | c :: more => if c = ' ' ∨ c = '+' ∨ c = '-' then (some c, more) else (none, rest)
    | [] => (none, [])
  let (plainZero, rest) := scanMark 'z' rest
  let (alternate, rest) := scanMark '#' rest
  let (zeroFill, rest) := if fill?.isNone then scanMark '0' rest else (false, rest)
  let (width?, rest) ← scanNumber none rest
  let (separator?, rest) ← scanSeparator rest
  let (point, rest) := scanMark '.' rest
  let (precision?, rest) ← if point then scanNumber none rest else pure (none, rest)
  if point && precision?.isNone then throw .precisionMissing
  let presentation ← match rest with
    | [] => pure 's'
    | [c] => pure c
    | _ => throw (.malformedLayout (.ofList cs))
  match separator? with
  | some separator =>
    if !separatorFits separator presentation then throw (.separatorWith separator presentation)
  | none => pure ()
  return {
    fill := fill?.getD (if zeroFill then '0' else ' ')
    align := align?.getD .left
    sign?, plainZero, alternate, width?, separator?, precision?, presentation }

/-- Why a layout does not go with texts. -/
def Layout.misfit? (l : Layout) : Option TemplateError :=
  if l.presentation ≠ 's' then some (.unknownPresentation l.presentation)
  else match l.sign? with
    | some ' ' => some .spaceForSign
    | some _ => some .sign
    | none =>
      if l.plainZero then some .negativeZero
      else if l.alternate then some .alternate
      else if l.align = .afterSign then some .padAfterSign
      else none

/-- A text cut and filled up. -/
def Layout.pad (l : Layout) (cs : List Char) : List Char :=
  let cs := match l.precision? with
    | some n => cs.take n
    | none => cs
  let space := l.width?.getD 0 - cs.length
  let before := match l.align with
    | .right => space
    | .center => space / 2
    | _ => 0
  List.replicate before l.fill ++ cs ++ List.replicate (space - before) l.fill

/-- A text in the layout that another text stands for. -/
def Layout.apply (layout cs : List Char) : Except TemplateError (List Char) :=
  if layout.isEmpty then .ok cs
  else do
    let l ← Layout.read layout
    match l.misfit? with
    | some e => throw e
    | none => if l.width?.getD 0 > maxRoom then throw .noRoom else return l.pad cs

end Template

end WorkspaceWatch
