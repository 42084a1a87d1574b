/-
**Levels of diagnostics.**

A record has a whole number as its level.  Seven levels have names, by which the least level shown
is chosen; records carry five of these names, and any other level is shown by its number.

Main definitions:

* `WorkspaceWatch.Level`: the named levels, with their numbers;
* `WorkspaceWatch.levelLabel`: how the level of a record is shown.
-/

set_option autoImplicit false

namespace WorkspaceWatch

/-- The named levels. -/
inductive Level where
  | trace
  | debug
  | info
  | success
  | warning
  | error
  | critical
deriving DecidableEq, Repr

namespace Level

/-- The levels from the finest up. -/
def all : List Level := [trace, debug, info, success, warning, error, critical]

/-- The name of a level. -/
def name : Level → String
  | trace => "TRACE"
  | debug => "DEBUG"
  | info => "INFO"
  | success => "SUCCESS"
  | warning => "WARNING"
  | error => "ERROR"
  | critical => "CRITICAL"

/-- The number of a level. -/
def number : Level → Int
  | trace => 5
  | debug => 10
  | info => 20
  | success => 25
  | warning => 30
  | error => 40
  | critical => 50

/-- The level with a given name. -/
def named? (name : String) : Option Level :=
  all.find? (·.name == name)

/-- The levels whose names records carry. -/
def ofRecords : List Level := [debug, info, warning, error, critical]

end Level

/-- How the level of a record is shown. -/
def levelLabel (k : Int) : String :=
  match Level.ofRecords.find? (·.number == k) with
  | some l => l.name
  | none => "Level " ++ toString k

end WorkspaceWatch
