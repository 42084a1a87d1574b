/-
**Names that mean no setting.**

The environment and the settings file of a project also bind names that are meant for other
programs.  Such names never change what the settings are read from.  In the environment they make
no difference at all.  In the settings file, a foreign name with a value is refused, and then
nothing loads.

Main definitions:

* `WorkspaceWatch.Surroundings.DifferIn` — surroundings that differ in foreign names only.

Main results:

* `WorkspaceWatch.Surroundings.DifferIn.text?_eq` — **every setting keeps its text**;
* `WorkspaceWatch.SettingsStore.get_of_differIn` — the settings are then the same exactly if the
  same names are stray, and in any case if only the environments differ.
-/

import WorkspaceWatch.Proofs.SettingsLoad

set_option autoImplicit false

namespace WorkspaceWatch

namespace Surroundings

/-- The bindings of the settings file as they are written. -/
def written (s : Surroundings) : List (String × Option String) :=
  s.file?.elim [] SettingsFile.written

theorem fileBindings_eq (s : Surroundings) :
    s.fileBindings = s.written.foldl (SettingsFile.bindNext s.environment) [] := by
  unfold fileBindings written
  cases s.file? <;> rfl

/-- Surroundings differ only in what they bind to foreign names, which mean no setting and stand in
no value of the first settings file. -/
structure DifferIn (foreign : String → Bool) (s s' : Surroundings) : Prop where
  /-- No foreign name means a setting. -/
  outside : ∀ n, foreign n = true → ∀ f ∈ Settings.names, ¬Settings.Means n f
  /-- The environments bind the other names alike. -/
  environment : (s'.environment.filter fun e => !foreign e.1) =
    s.environment.filter fun e => !foreign e.1
  /-- So do the settings files, as they are written. -/
  file : (s'.written.filter fun b => !foreign b.1) = s.written.filter fun b => !foreign b.1
  /-- No value has a foreign name in it. -/
  unmentioned : ∀ b ∈ s.written, ∀ v ∈ b.2, ∀ n ∈ SettingsFile.mentions v, foreign n = false

namespace DifferIn

variable {foreign : String → Bool} {s s' : Surroundings} {f : String}

/-- What means a setting is kept when the foreign names are left out. -/
theorem filter_means (h : s.DifferIn foreign s') (hf : f ∈ Settings.names) {α : Type}
    (entries : List (String × α)) :
    ((entries.filter fun e => !foreign e.1).filter fun e => Settings.Means e.1 f) =
      entries.filter fun e => Settings.Means e.1 f := by
  rw [List.filter_filter]
  refine List.filter_congr fun e _ => ?_
  by_cases hmeans : Settings.Means e.1 f
  · have hkept : foreign e.1 = false := by
      by_contra hforeign
      exact h.outside e.1 (Bool.not_eq_false _ ▸ hforeign) f hf hmeans
    simp [hmeans, hkept]
  · simp [hmeans]

theorem mentions_kept (h : s.DifferIn foreign s') :
    ∀ b ∈ s.written, ∀ v ∈ b.2, ∀ n ∈ SettingsFile.mentions v, (!foreign n) = true := by
  intro b hb v hv n hn
  rw [h.unmentioned b hb v hv n hn, Bool.not_false]

theorem isClosed_left (h : s.DifferIn foreign s') :
    SettingsFile.IsClosed (fun n => !foreign n) s.written :=
  fun b hb _ => h.mentions_kept b hb

theorem isClosed_right (h : s.DifferIn foreign s') :
    SettingsFile.IsClosed (fun n => !foreign n) s'.written := by
  intro b hb hkept
  have hmem : b ∈ s'.written.filter fun b => !foreign b.1 := List.mem_filter.2 ⟨hb, hkept⟩
  rw [h.file] at hmem
  exact h.mentions_kept b (List.mem_of_mem_filter hmem)

/-- The other names are bound alike by both settings files. -/
theorem filter_fileBindings (h : s.DifferIn foreign s') :
    (s'.fileBindings.filter fun b => !foreign b.1) = s.fileBindings.filter fun b => !foreign b.1 := by
  rw [fileBindings_eq, fileBindings_eq,
    SettingsFile.filter_foldl_bindNext h.environment.symm
      h.isClosed_right,
    SettingsFile.filter_foldl_bindNext rfl h.isClosed_left, h.file]

/-- **Every setting keeps its text.** -/
theorem text?_eq (h : s.DifferIn foreign s') (hf : f ∈ Settings.names) : s'.text? f = s.text? f := by
  have henvironment : s'.environmentText? f = s.environmentText? f := by
    rw [environmentText?, environmentText?, ← h.filter_means hf, h.environment, h.filter_means hf]
  have hfile : s'.fileText? f = s.fileText? f := by
    rw [fileText?, fileText?, ← h.filter_means hf, h.filter_fileBindings, h.filter_means hf]
  rw [text?, text?, henvironment, hfile]

/-- If only the environments differ, the settings files bind the same. -/
theorem fileBindings_eq_of_file?_eq (h : s.DifferIn foreign s') (hfile : s'.file? = s.file?) :
    s'.fileBindings = s.fileBindings := by
  have hwritten : s'.written = s.written := by rw [written, hfile, written]
  rw [fileBindings_eq, fileBindings_eq, hwritten]
  exact SettingsFile.foldl_bindNext_congr h.environment h.mentions_kept []

end DifferIn

end Surroundings

namespace SettingsStore

/-- **Foreign names never change what the settings are read from, but those of the settings file
are refused.**  The settings are the same exactly if the same names are stray, in particular if only
the environments differ.  They load as without the foreign names, unless a name is stray; the stray
names are reported after the settings that are no numbers.  A name is stray if it means no setting,
not even without the mark in front, and has a value. -/
theorem get_of_differIn {foreign : String → Bool} {s s' : Surroundings} (h : s.DifferIn foreign s') :
    (s'.file? = s.file? → (get {} s').1 = (get {} s).1) ∧
      ((get {} s').1 = (get {} s).1 ↔ s'.stray = s.stray) ∧
      (∀ x, (get {} s').1 = .ok x ↔
        Settings.readAll (fun f => (s.text? f).map .text) = .ok x ∧ s'.stray = []) ∧
      (∀ r, (get {} s').1 = .error r ↔
        r = ⟨"SideSettings", .value, (Settings.unreadable s.text?).map Settings.noNumber ++
          s'.stray.map Settings.unexpected⟩ ∧ r.issues ≠ []) ∧
      ∀ n, n ∈ s'.stray ↔ Settings.isName n = false ∧ ∃ v, v ≠ "" ∧
        (s'.fileBindings.filter (lowerCase ·.1 == n)).getLast?.map Prod.snd = some (some v) := by
  have htexts : ∀ f ∈ Settings.names, s'.text? f = s.text? f := fun f hf => h.text?_eq hf
  simp only [get_empty]
  refine ⟨fun hfile => ?_, ⟨Settings.stray_eq_of_load_eq htexts, Settings.load_congr htexts⟩,
    fun x => ?_, fun r => ?_, s'.mem_stray_iff⟩
  · refine Settings.load_congr htexts ?_
    rw [Surroundings.stray, h.fileBindings_eq_of_file?_eq hfile, Surroundings.stray]
  · rw [Settings.load_eq_ok_iff, Settings.readAll_text_congr htexts]
  · rw [Settings.load_eq_error_iff, Settings.unreadable_congr htexts]

/-- The address of a database, bound in the environment and in the settings file. -/
theorem get_of_differIn_database :
    let s : Surroundings := ⟨[], some "side_poll_interval=9\n"⟩
    let s' : Surroundings := ⟨[("DATABASE_URL", "sqlite://")],
      some "DATABASE_URL=postgres://localhost/app\nside_poll_interval=9\n"⟩
    s.DifferIn (· == "DATABASE_URL") s' ∧ s'.stray = ["database_url"] ∧
      (get {} s').1 = .error ⟨"SideSettings", .value, [⟨[.key "database_url"], .unexpected⟩]⟩ := by
  intro s s'
  have hdiffer : s.DifferIn (· == "DATABASE_URL") s' := by
    refine ⟨?_, by decide, by decide, by decide⟩
    intro n hn
    rw [beq_iff_eq.1 hn]
    decide
  have hstray : s'.stray = ["database_url"] := by decide
  have hunreadable : Settings.unreadable s.text? = [] := by decide
  refine ⟨hdiffer, hstray, ((get_of_differIn hdiffer).2.2.2.1 _).2 ⟨?_, List.cons_ne_nil _ _⟩⟩
  rw [hunreadable, hstray]
  rfl

/-- **The address of a database in the settings file keeps the settings from being loaded**, though
it means no setting, stands in no value, and makes no difference in the environment. -/
theorem get_database_refused :
    Surroundings.DifferIn (· == "DATABASE_URL") ⟨[], none⟩
        ⟨[], some "DATABASE_URL=postgres://localhost/app\n"⟩ ∧
      (get {} ⟨[], none⟩).1 = .ok {} ∧
      (get {} ⟨[("DATABASE_URL", "postgres://localhost/app")], none⟩).1 = .ok {} ∧
      (get {} ⟨[], some "DATABASE_URL=postgres://localhost/app\n"⟩).1 =
        .error ⟨"SideSettings", .value, [⟨[.key "database_url"], .unexpected⟩]⟩ := by
  refine ⟨⟨?_, by decide, by decide, by decide⟩, by decide,
    by decide, by decide⟩
  intro n hn
  rw [beq_iff_eq.1 hn]
  decide

end SettingsStore

end WorkspaceWatch
