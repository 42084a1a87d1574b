/-
**The command.**

The command finds out where it was started, runs the program, and prints what the program reports.
It has no transport of its own: what the daemon does is read from the standard input, one line of
JSON for each request, as

* `{"status": 200, "headers": {"name": "text"}, "body": "text"}` for an answer, or
* `{"fail": "ConnectError", "text": "what happened"}` for a failure of the transport.

The standard input is left alone unless the program asks the daemon something.

Main definitions:

* `WorkspaceWatch.Reaction.ofLine?`: a reaction read from its line;
* `main`: the command.
-/

import WorkspaceWatch.CommandLine.Program
import WorkspaceWatch.Json.Parser

set_option autoImplicit false

namespace WorkspaceWatch

/-- A text among the entries of an object, empty if it is not there. -/
def Reaction.textAt (entries : List (String × Json)) (key : String) : String :=
  ((Json.lookup? entries key).bind Json.text?).getD ""

/-- A reaction read from its line. -/
def Reaction.ofLine? (line : String) : Option Reaction := do
  let entries ← (← Json.parse? line).entries?
  match Json.lookup? entries "status" with
  | some (.int status) =>
    let headers := ((Json.lookup? entries "headers").bind Json.entries?).getD []
    let texts := headers.filterMap fun (name, value) => value.text?.map (name, ·)
    some (.respond ⟨status.toNat, texts, (textAt entries "body").toUTF8⟩)
  | _ => some (.fail ⟨textAt entries "fail", textAt entries "text"⟩)

namespace Command

/-- The text of a file, if it can be read. -/
def readText? (path : String) : IO (Option String) := do
  match ← (IO.FS.readFile path).toBaseIO with
  | .ok text => return some text
  | .error _ => return none

/-- The environment, which the system shows as a file of bindings that each end in a NUL. -/
def readEnvironment : IO (List (String × String)) := do
  let bindings := splitAtMark '\x00' ((← readText? "/proc/self/environ").getD "").toList
  return bindings.filterMap fun binding =>
    match splitAtMark '=' binding with
    | name :: rest@(_ :: _) => some (.ofList name, .ofList (joinWithMark '=' rest))
    | _ => none

/-- What the program finds when it starts, before the daemon did anything. -/
def readSituation : IO Situation := do
  let surroundings : Surroundings :=
    { environment := ← readEnvironment, file? := ← readText? ".env" }
  return {
    directory := (← IO.currentDir).toString
    surroundings
    client? := none
    reactions := []
    onTerminal := ← (← IO.getStdout).isTty }

/-- The lines of a stream, up to its end. -/
partial def readLines (stream : IO.FS.Stream) : IO (List String) := do
  let line ← stream.getLine
  if line.isEmpty then return []
  return line :: (← readLines stream)

/-- A sleep that does not end. -/
partial def sleep : IO Unit := do
  IO.sleep 1000
  sleep

/-- What is said about the program breaking off. -/
def crashText : Crash → String
  | .settings r => toString r.issues.length ++ " invalid values among the settings\n"
  | .level name => "Level " ++ quoted name ++ " does not exist\n"
  | .escaped m => m.kind ++ ": " ++ m.text ++ "\n"
  | .exhausted => "no more responses\n"

end Command

end WorkspaceWatch

open WorkspaceWatch in
/-- The command: it reads the daemon's reactions if a run without any needs one. -/
def main (words : List String) : IO UInt32 := do
  let situation ← Command.readSituation
  let report ←
    match (situation.run words).ending with
    | .crash .exhausted =>
      let lines ← Command.readLines (← IO.getStdin)
      pure (({ situation with reactions := lines.filterMap Reaction.ofLine? }).run words)
    | _ => pure (situation.run words)
  IO.print report.out
  IO.eprint report.err
  match report.ending with
  | .exit code => return code.toUInt32
  | .crash crash =>
    IO.eprint (Command.crashText crash)
    return 1
  | .endless =>
    Command.sleep
    return 0
