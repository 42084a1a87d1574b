/-
**Diagnostics as they are set up.**

A record goes through a logger, then to the handlers of the root, and from the handler that is set
up here to the sinks.  Setting diagnostics up closes all sinks and opens one on the error stream,
puts one handler in the place of all others, lets the root pass on everything and holds the loggers
of the transport to warnings.  It goes through these stages one after another, and breaks off where
the level is not known.

Main definitions:

* `WorkspaceWatch.Sink`, `WorkspaceWatch.Handler`: where records are shown, and how they get there;
* `WorkspaceWatch.Diagnostics.setup`: diagnostics set up for a level;
* `WorkspaceWatch.Diagnostics.log`: a record sent through a logger.
-/

import WorkspaceWatch.Logging.Basic
import WorkspaceWatch.Logging.Loggers
import WorkspaceWatch.Logging.Message
import WorkspaceWatch.Text.Casing

set_option autoImplicit false

namespace WorkspaceWatch

/-- A place where records are shown. -/
structure Sink where
  /-- The level from which on they are shown. -/
  threshold : Level
  /-- How they are shown. -/
  style : LineStyle
deriving DecidableEq, Repr

namespace Sink

/-- The place for a least level, in the style for it. -/
def ofLevel (threshold : Level) : Sink := ⟨threshold, .ofLevel threshold⟩

/-- A record as it is shown in a place. -/
def shown (s : Sink) (level : Int) (message : String) (caller : Caller) : String :=
  if s.threshold.number ≤ level then s.style.line (levelLabel level) message caller else ""

end Sink

/-- What takes the records that loggers pass on: it hands them over to the sinks, or shows their
messages from a level on. -/
inductive Handler where
  | bridge
  | plain (least : Int)
deriving DecidableEq, Repr

/-- What takes records where there is no handler. -/
def Handler.lastResort : Handler := .plain Level.warning.number

/-- The state of diagnostics. -/
structure Diagnostics where
  /-- The sinks. -/
  sinks : List Sink := []
  /-- The handlers of the root. -/
  handlers : List Handler := []
  /-- The loggers. -/
  loggers : Loggers := {}
deriving DecidableEq, Repr

namespace Diagnostics

/-! ### Levels -/

/-- The loggers that are held to warnings, once diagnostics have been set up. -/
def quietLoggers : List String := ["httpx", "httpcore"]

/-- The style for a level given by its name in any letter case, or the name that is not known. -/
def styleOf (level : String) : Except String LineStyle :=
  match Level.named? (upperCase level) with
  | some l => .ok (.ofLevel l)
  | none => .error (upperCase level)

/-- What the message about an unknown level says. -/
def unknownLevel (name : String) : String :=
  "Level '" ++ name ++ "' does not exist"

/-! ### Records -/

/-- A record shown in all sinks. -/
def emit (d : Diagnostics) (level : Int) (message : String) (caller : Caller) : String :=
  "".intercalate (d.sinks.map fun s => s.shown level message caller)

/-- A record as a handler shows it. -/
def handle (d : Diagnostics) (level : Int) (message : String) : Handler → String
  | .bridge => d.emit level message .user
  | .plain least => if least ≤ level then message ++ "\n" else ""

/-- A record that a logger passed on, as it is shown. -/
def display (d : Diagnostics) (level : Int) (message : String) : String :=
  match d.handlers with
  | [] => d.handle level message .lastResort
  | handlers => "".intercalate (handlers.map (d.handle level message))

/-- A record with arguments sent through a logger: what is shown, or why the message cannot be
filled in, which is seen only if the logger passes the record on. -/
def log (d : Diagnostics) (logger : String) (level : Int) (message : String)
    (arguments : List Json) : Except Message.MessageError String × Diagnostics :=
  let (passes, loggers) := (d.loggers.get logger).passes logger level
  let d := { d with loggers }
  (if passes then (Message.fill message arguments).map (d.display level) else .ok "", d)

/-! ### Setting up -/

/-- All sinks closed. -/
def closed (d : Diagnostics) : Diagnostics := { d with sinks := [] }

/-- One sink more. -/
def opened (d : Diagnostics) (s : Sink) : Diagnostics := { d with sinks := d.sinks ++ [s] }

/-- One handler in the place of all others, and a root that passes everything on. -/
def bridged (d : Diagnostics) : Diagnostics :=
  { d with handlers := [.bridge], loggers := d.loggers.setRoot 0 }

/-- Some loggers held to warnings. -/
def quieted (d : Diagnostics) (names : List String) : Diagnostics :=
  { d with loggers := names.foldl (fun ls name => ls.setLevel name Level.warning.number) d.loggers }

/-- Diagnostics set up for a level given by its name in any letter case: what is shown at once, or
the name that is not known. -/
def setup (d : Diagnostics) (level : String) : Except String String × Diagnostics :=
  let d := d.closed
  match Level.named? (upperCase level) with
  | none => (.error (upperCase level), d)
  | some threshold =>
    let d := ((d.opened (.ofLevel threshold)).bridged).quieted quietLoggers
    (.ok (d.emit Level.debug.number
      ("Logging initialised (level=" ++ threshold.name ++ ")") .setup), d)

end Diagnostics

end WorkspaceWatch
