/-
**The tree of loggers.**

A logger has a name and is there once it was asked for.  One whose name begins with the name of
another, up to a dot, stands below it.  A logger without a level of its own takes that of the
nearest logger above it, and in the end that of the root.  What a logger answers about a level is
kept until a level is given to any of them.

Main definitions:

* `WorkspaceWatch.Loggers`: the loggers, with the levels that they were given;
* `WorkspaceWatch.Loggers.above?`: the nearest logger above another;
* `WorkspaceWatch.Loggers.effectiveLevel`: the level of a logger;
* `WorkspaceWatch.Loggers.passes`: whether a logger passes on records of a level.
-/

import WorkspaceWatch.Logging.Level

set_option autoImplicit false

namespace WorkspaceWatch

/-- The loggers that were asked for. -/
structure Loggers where
  /-- Their names, each once. -/
  names : List String := []
  /-- The levels that loggers were given as their own, none of them zero. -/
  levels : List (String × Int) := []
  /-- The level of the root. -/
  root : Int := Level.warning.number
  /-- What was answered since the last level was given: the logger, the level, and whether the
  logger passes it on. -/
  answers : List ((String × Int) × Bool) := []
deriving DecidableEq, Repr

namespace Loggers

/-- The loggers with one that is asked for. -/
def get (ls : Loggers) (name : String) : Loggers :=
  if ls.names.contains name then ls else { ls with names := ls.names ++ [name] }

/-- The loggers after the root was given a level. -/
def setRoot (ls : Loggers) (level : Int) : Loggers :=
  { ls with root := level, answers := [] }

/-- The loggers after one of them was given a level. -/
def setLevel (ls : Loggers) (name : String) (level : Int) : Loggers :=
  { ls.get name with levels := (name, level) :: ls.levels.filter (·.1 != name), answers := [] }

/-- The level that a logger was given. -/
def ownLevel? (ls : Loggers) (name : String) : Option Int :=
  (ls.levels.find? (·.1 == name)).map (·.2)

/-- The logger whose name, written from its end, is the given one. -/
def written? (ls : Loggers) (cs : List Char) : Option String :=
  ls.names.find? (· == .ofList cs.reverse)

/-- The nearest logger above a name that is written from its end.  The character before a dot is
passed over, so that of two dots in a row only the last one counts, and a dot in front does not. -/
def aboveFrom? (ls : Loggers) : List Char → Option String
  | c :: d :: rest =>
    if c = '.' then (ls.written? (d :: rest)).or (aboveFrom? ls rest)
    else aboveFrom? ls (d :: rest)
  | _ => none

/-- The nearest logger above another. -/
def above? (ls : Loggers) (name : String) : Option String :=
  ls.aboveFrom? name.toList.reverse

/-- The level that loggers below a point in a name take, the name being written from its end. -/
def levelFrom (ls : Loggers) : List Char → Int
  | c :: d :: rest =>
    if c = '.' then
      match ls.written? (d :: rest) with
      | some name => (ls.ownLevel? name).getD (levelFrom ls (d :: rest))
      | none => levelFrom ls rest
    else levelFrom ls (d :: rest)
  | _ => ls.root

/-- The level of a logger: its own, or that of the nearest logger above it. -/
def effectiveLevel (ls : Loggers) (name : String) : Int :=
  (ls.ownLevel? name).getD (ls.levelFrom name.toList.reverse)

/-- Whether a logger passes on records of a level, and the loggers with that answer kept. -/
def passes (ls : Loggers) (name : String) (level : Int) : Bool × Loggers :=
  match ls.answers.find? (·.1 == (name, level)) with
  | some (_, answer) => (answer, ls)
  | none =>
    let answer := 0 < level && ls.effectiveLevel name ≤ level
    (answer, { ls with answers := ((name, level), answer) :: ls.answers })

end Loggers

end WorkspaceWatch
