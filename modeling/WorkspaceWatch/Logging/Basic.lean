/-
**How records are shown.**

A record is shown on a line of its own: at the finest levels with time and place, above them with the
level alone.  The time, the line in the code and the colours of a terminal are left out here.

Main definitions:

* `WorkspaceWatch.LineStyle`: how a record is shown;
* `WorkspaceWatch.LineStyle.line`: a record as a line.
-/

import WorkspaceWatch.Logging.Level

set_option autoImplicit false

namespace WorkspaceWatch

/-- How a record is shown: with time, level and place, or with the level alone. -/
inductive LineStyle where
  | detailed
  | terse
deriving DecidableEq, Repr

namespace LineStyle

/-- The style for a least level. -/
def ofLevel (l : Level) : LineStyle :=
  if l.number ≤ Level.debug.number then detailed else terse

/-- The style as a pattern, with marks for colours. -/
def pattern : LineStyle → String
  | detailed =>
    "<green>\x7btime:HH:mm:ss.SSS\x7d</green> | <level>\x7blevel: <8\x7d</level> | " ++
    "<cyan>\x7bname\x7d</cyan>:<cyan>\x7bfunction\x7d</cyan>:<cyan>\x7bline\x7d</cyan> - " ++
    "<level>\x7bmessage\x7d</level>"
  | terse => "<level>\x7blevel\x7d</level>: \x7bmessage\x7d"

end LineStyle

/-- Where a record comes from: the code that called a logger, or the set-up of diagnostics. -/
inductive Caller where
  | user
  | setup
deriving DecidableEq, Repr

/-- The place as it is shown; the line in the code is left open. -/
def Caller.text : Caller → String
  | user => "CALLER"
  | setup => "sidekick.log:setup_logging:N"

/-- A label filled up with blanks at the right. -/
def padLabel (width : Nat) (s : String) : String :=
  s ++ .ofList (List.replicate (width - s.length) ' ')

/-- A record as a line; the time is left open. -/
def LineStyle.line (style : LineStyle) (label message : String) (caller : Caller) : String :=
  match style with
  | detailed =>
    "HH:MM:SS.mmm | " ++ padLabel 8 label ++ " | " ++ caller.text ++ " - " ++ message ++ "\n"
  | terse => label ++ ": " ++ message ++ "\n"

end WorkspaceWatch
