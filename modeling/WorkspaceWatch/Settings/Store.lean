/-
**Settings that are read once.**

The program reads its settings when they are first asked for and keeps them.  Settings that could
not be read are not kept, so they are read again the next time.

Main definitions:

* `WorkspaceWatch.SettingsStore`: the settings kept, if any;
* `WorkspaceWatch.SettingsStore.get`: the settings, read if none are kept;
* `WorkspaceWatch.SettingsState`: a store in its surroundings, with the events that change them;
* `WorkspaceWatch.SettingsState.after`: the state after a row of events.
-/

import WorkspaceWatch.Settings.Basic

set_option autoImplicit false

namespace WorkspaceWatch

/-- The settings kept, if any. -/
structure SettingsStore where
  /-- The settings kept. -/
  kept? : Option Settings := none
deriving DecidableEq, Repr

namespace SettingsStore

/-- The settings kept, or those read in the given surroundings, which are then kept. -/
def get (store : SettingsStore) (s : Surroundings) : Except Rejection Settings × SettingsStore :=
  match store.kept? with
  | some settings => (.ok settings, store)
  | none =>
    match Settings.load [] s with
    | .ok settings => (.ok settings, ⟨some settings⟩)
    | .error r => (.error r, store)

/-- A store that keeps nothing. -/
def clear (_ : SettingsStore) : SettingsStore := {}

end SettingsStore

/-! ### Events -/

/-- What happens to a store and its surroundings. A name is bound in the environment, or no longer;
the settings file is written, or removed; the store is told to keep nothing; the settings are read
apart from the store, with arguments of their own, or asked for. -/
inductive SettingsEvent where
  | bind (name value : String)
  | unbind (name : String)
  | write (file? : Option String)
  | clear
  | load (arguments : List (String × Json))
  | get

/-- A store in its surroundings. -/
structure SettingsState where
  /-- The surroundings. -/
  surroundings : Surroundings
  /-- The store. -/
  store : SettingsStore := {}
deriving DecidableEq, Repr

namespace SettingsState

/-- The state after an event. -/
def next (s : SettingsState) : SettingsEvent → SettingsState
  | .bind name value => { s with surroundings := s.surroundings.bind name value }
  | .unbind name => { s with surroundings := s.surroundings.unbind name }
  | .write file? => { s with surroundings := { s.surroundings with file? } }
  | .clear => { s with store := s.store.clear }
  | .load _ => s
  | .get => { s with store := (s.store.get s.surroundings).2 }

/-- What an event gives back, if it gives settings back. -/
def answer? (s : SettingsState) : SettingsEvent → Option (Except Rejection Settings)
  | .load arguments => some (Settings.load arguments s.surroundings)
  | .get => some (s.store.get s.surroundings).1
  | _ => none

/-- The state after a row of events. -/
def after (s : SettingsState) (events : List SettingsEvent) : SettingsState :=
  events.foldl next s

/-- Events in two rows are one row of events. -/
theorem after_append (s : SettingsState) (before more : List SettingsEvent) :
    s.after (before ++ more) = (s.after before).after more :=
  List.foldl_append

end SettingsState

end WorkspaceWatch
