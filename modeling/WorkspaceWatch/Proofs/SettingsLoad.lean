/-
**What loading the settings comes to.**

Loading has two parts that know nothing of each other.  One reads the four settings, each from the
text that its sources have for it; the other refuses the names of the settings file that mean no
setting.  The settings load exactly if both succeed, and otherwise the issues of both are reported.

Main definitions:

* `WorkspaceWatch.Surroundings.text?` — the text that the sources have for a setting;
* `WorkspaceWatch.Surroundings.stray` — the names in the settings file that mean no setting;
* `WorkspaceWatch.Settings.unreadable` — the settings whose text is no number.

Main results:

* `WorkspaceWatch.Settings.load_eq_ok_iff`, `WorkspaceWatch.Settings.load_eq_error_iff` — **loading
  is reading the settings and refusing the stray names**;
* `WorkspaceWatch.Settings.readAll_text_eq_ok_iff`, `WorkspaceWatch.Settings.issues_readAll_text` —
  **only numbers can be unreadable**, each for itself;
* `WorkspaceWatch.Surroundings.mem_stray_iff` — which names are stray.
-/

import WorkspaceWatch.Proofs.Bindings
import WorkspaceWatch.Proofs.Schema
import WorkspaceWatch.Settings.Store

set_option autoImplicit false

namespace WorkspaceWatch

/-! ### Names in any letter case -/

/-- A name means a setting: it is that of the setting with the mark in front, in any letter case. -/
def Settings.Means (name setting : String) : Prop := lowerCase name = outerMark ++ setting

instance (name setting : String) : Decidable (Settings.Means name setting) :=
  inferInstanceAs (Decidable (lowerCase name = Settings.outerMark ++ setting))

/-- Of the names that become one in small letters, the last counts. -/
theorem Settings.lookup_inSmallLetters {α : Type} (bindings : List (String × α)) (n : String) :
    (inSmallLetters bindings).lookup n =
      (bindings.filter (lowerCase ·.1 == n)).getLast?.map Prod.snd := by
  rw [inSmallLetters, Json.lookup_unique, List.filter_map, List.getLast?_map, Option.map_map]
  rfl

namespace Surroundings

/-- The text that a setting has in the environment. -/
def environmentText? (s : Surroundings) (setting : String) : Option String :=
  (s.environment.filter fun b => Settings.Means b.1 setting).getLast?.map Prod.snd

/-- The text that a setting has in the settings file. -/
def fileText? (s : Surroundings) (setting : String) : Option String :=
  (s.fileBindings.filter fun b => Settings.Means b.1 setting).getLast?.bind Prod.snd

/-- The text that the sources have for a setting: that of the environment, or else of the file. -/
def text? (s : Surroundings) (setting : String) : Option String :=
  (s.environmentText? setting).or (s.fileText? setting)

/-- The names in the settings file that have a value and mean no setting. -/
def stray (s : Surroundings) : List String :=
  (Settings.strayNames (Settings.inSmallLetters s.fileBindings)).eraseDups

/-- A setting is looked up as its text. -/
theorem source?_eq (s : Surroundings) (setting : String) :
    Settings.source? [] (Settings.inSmallLetters s.environment)
      (Settings.inSmallLetters s.fileBindings) setting = (s.text? setting).map .text := by
  have hargument : Settings.argument? [] setting = none := rfl
  have hmeans : ∀ name : String, (lowerCase name == Settings.outerMark ++ setting) =
      decide (Settings.Means name setting) := fun name => rfl
  simp only [Settings.source?, hargument, Settings.lookup_inSmallLetters, hmeans, text?,
    environmentText?, fileText?]
  cases (s.environment.filter fun b => Settings.Means b.1 setting).getLast? with
  | some b => rfl
  | none =>
      cases (s.fileBindings.filter fun b => Settings.Means b.1 setting).getLast? with
      | none => rfl
      | some b => cases h : b.2 <;> simp [h]

/-- **A name is stray** if it means no setting and its last binding, in whatever letter case, has a
value that is not empty. -/
theorem mem_stray_iff (s : Surroundings) (n : String) :
    n ∈ s.stray ↔ Settings.isName n = false ∧ ∃ v, v ≠ "" ∧
      (s.fileBindings.filter (lowerCase ·.1 == n)).getLast?.map Prod.snd = some (some v) := by
  rw [← Settings.lookup_inSmallLetters, stray, List.mem_eraseDups, Settings.strayNames,
    List.mem_filterMap]
  constructor
  · rintro ⟨⟨m, value?⟩, hmem, hstray⟩
    rw [Settings.inSmallLetters, Json.mem_unique_iff] at hmem
    dsimp only at hstray
    by_cases hpassed : ((value?.getD "").isEmpty || Settings.isName m) = true
    · rw [if_pos hpassed] at hstray
      cases hstray
    · rw [if_neg hpassed] at hstray
      cases hstray
      rw [Bool.or_eq_true, not_or] at hpassed
      cases value? with
      | none => exact absurd rfl hpassed.1
      | some v => exact ⟨by simpa using hpassed.2, v, by simpa using hpassed.1, hmem⟩
  · rintro ⟨hname, v, hv, hlook⟩
    rw [Settings.inSmallLetters, ← Json.mem_unique_iff] at hlook
    refine ⟨(n, some v), hlook, ?_⟩
    simp [hname, hv]

end Surroundings

namespace Settings

/-! ### Reading the settings -/

section Reading

variable {t : String → Option String}

/-- The number that a setting has, if its text is one; without a text, another number stands in. -/
def numberOf? (standIn : Binary64) : Option String → Option Binary64
  | none => some standIn
  | some text => settingNumber? text

/-- The settings among those with numbers whose text is no number. -/
def unreadable (t : String → Option String) : List String :=
  ["connect_timeout", "poll_interval"].filter fun n =>
    (t n).any fun text => (settingNumber? text).isNone

/-- The issue of a setting whose text is no number. -/
def noNumber (setting : String) : Issue := ⟨[.key setting], .unreadableNumber⟩

/-- A text is taken as it is. -/
theorem readField_text (n standIn : String) :
    readField (fun n => (t n).map .text) n readText standIn = .ok ((t n).getD standIn) := by
  cases ht : t n <;> simp [readField, readText, ht, Except.mapError]

/-- A number is read, or its setting is reported. -/
theorem readField_number (n : String) (standIn : Binary64) :
    readField (fun n => (t n).map .text) n readNumber standIn =
      (numberOf? standIn (t n)).elim (.error [noNumber n]) .ok := by
  cases ht : t n with
  | none => simp [readField, numberOf?, ht]
  | some text =>
      cases hnumber : settingNumber? text <;>
        simp [readField, readNumber, numberOf?, ht, hnumber, Except.mapError, noNumber]

theorem readField_number_eq_ok_iff (n : String) (standIn x : Binary64) :
    readField (fun n => (t n).map .text) n readNumber standIn = .ok x ↔
      numberOf? standIn (t n) = some x := by
  rw [readField_number]
  cases numberOf? standIn (t n) <;> simp

theorem issues_readField_number (n : String) (standIn : Binary64) :
    (readField (fun n => (t n).map .text) n readNumber standIn).issues =
      if (numberOf? standIn (t n)).isNone then [noNumber n] else [] := by
  rw [readField_number]
  cases numberOf? standIn (t n) <;> rfl

theorem any_isNone_settingNumber? (standIn : Binary64) (text? : Option String) :
    (text?.any fun text => (settingNumber? text).isNone) = (numberOf? standIn text?).isNone := by
  cases text? <;> simp [numberOf?]

/-- **Texts are taken as they are, and numbers are read.** -/
theorem readAll_text_eq_ok_iff (x : Settings) :
    readAll (fun n => (t n).map .text) = .ok x ↔
      x.logLevel = (t "log_level").getD "WARNING" ∧
      x.baseUrl = (t "base_url").getD defaultBaseUrl ∧
      numberOf? defaultConnectTimeout (t "connect_timeout") = some x.connectTimeout ∧
      numberOf? (.ofInt 5) (t "poll_interval") = some x.pollInterval := by
  simp only [readAll, map_eq_ok_iff, Prod.exists, both_eq_ok_iff, readField_text,
    readField_number_eq_ok_iff, Except.ok.injEq]
  constructor
  · rintro ⟨_, _, _, _, ⟨rfl, rfl, htimeout, hinterval⟩, rfl⟩
    exact ⟨rfl, rfl, htimeout, hinterval⟩
  · rintro ⟨hlevel, hurl, htimeout, hinterval⟩
    exact ⟨_, _, _, _, ⟨hlevel.symm, hurl.symm, htimeout, hinterval⟩, rfl⟩

/-- **Only numbers can be unreadable**, and each has an issue of its own. -/
theorem issues_readAll_text :
    (readAll fun n => (t n).map .text).issues = (unreadable t).map noNumber := by
  simp only [readAll, Checked.issues_map, issues_both, readField_text, Checked.issues_ok,
    issues_readField_number, List.nil_append, unreadable, List.filter_cons, List.filter_nil]
  rw [any_isNone_settingNumber? defaultConnectTimeout, any_isNone_settingNumber? (.ofInt 5)]
  cases (numberOf? defaultConnectTimeout (t "connect_timeout")).isNone <;>
    cases (numberOf? (.ofInt 5) (t "poll_interval")).isNone <;> rfl

/-- The settings can be read exactly if all numbers among them can. -/
theorem exists_readAll_text_iff :
    (∃ x, readAll (fun n => (t n).map .text) = .ok x) ↔ unreadable t = [] := by
  constructor
  · rintro ⟨x, hx⟩
    have hissues := issues_readAll_text (t := t)
    rw [hx, Checked.issues_ok] at hissues
    exact List.map_eq_nil_iff.1 hissues.symm
  · intro h
    have hboth : ∀ n ∈ ["connect_timeout", "poll_interval"], ∀ standIn,
        ∃ x, numberOf? standIn (t n) = some x := by
      intro n hn standIn
      have hreadable := List.filter_eq_nil_iff.1 h n hn
      rw [any_isNone_settingNumber? standIn] at hreadable
      simpa [Option.isNone_iff_eq_none, Option.ne_none_iff_exists'] using hreadable
    obtain ⟨c, hc⟩ := hboth "connect_timeout" (by simp) defaultConnectTimeout
    obtain ⟨p, hp⟩ := hboth "poll_interval" (by simp) (.ofInt 5)
    exact ⟨⟨_, _, c, p⟩, (readAll_text_eq_ok_iff _).2 ⟨rfl, rfl, hc, hp⟩⟩

/-- The settings are read from the texts of the four settings. -/
theorem readAll_text_congr {t t' : String → Option String} (h : ∀ f ∈ names, t' f = t f) :
    (readAll fun n => (t' n).map .text) = readAll fun n => (t n).map .text := by
  simp only [names, List.forall_mem_cons] at h
  obtain ⟨hlevel, hurl, htimeout, hinterval, -⟩ := h
  simp only [readAll, readField, hlevel, hurl, htimeout, hinterval]

theorem unreadable_congr {t t' : String → Option String} (h : ∀ f ∈ names, t' f = t f) :
    unreadable t' = unreadable t := by
  refine List.filter_congr fun n hn => ?_
  have hname : n ∈ names := by
    rcases List.mem_pair.1 hn with rfl | rfl <;> decide
  rw [h n hname]

end Reading

/-! ### The two parts of loading -/

theorem refuse_eq_ok_iff (names : List String) : refuse names = .ok () ↔ names.eraseDups = [] := by
  unfold refuse
  cases names.eraseDups <;> simp

theorem issues_refuse (names : List String) :
    (refuse names).issues = names.eraseDups.map unexpected := by
  unfold refuse
  cases names.eraseDups <;> rfl

/-- The two checks that loading makes. -/
def checks (s : Surroundings) : Checked (Settings × Unit) :=
  both (readAll fun n => (s.text? n).map .text)
    (refuse (strayNames (inSmallLetters s.fileBindings)))

theorem load_eq (s : Surroundings) :
    load [] s = ((checks s).map Prod.fst).mapError fun issues =>
      ⟨"SideSettings", .value, issues⟩ := by
  have hlook : source? [] (inSmallLetters s.environment) (inSmallLetters s.fileBindings) =
      fun n => (s.text? n).map .text := funext s.source?_eq
  have harguments : Json.unique ([] : List (String × Json)) = [] := rfl
  have hstray : strayArguments [] = [] := rfl
  simp only [load, harguments, hlook, hstray, List.append_nil, checks]
  cases both (readAll fun n => (s.text? n).map .text)
    (refuse (strayNames (inSmallLetters s.fileBindings))) <;> rfl

theorem checks_eq_ok_iff (s : Surroundings) (x : Settings) :
    checks s = .ok (x, ()) ↔
      readAll (fun n => (s.text? n).map .text) = .ok x ∧ s.stray = [] := by
  rw [checks, both_eq_ok_iff, refuse_eq_ok_iff]
  rfl

theorem issues_checks (s : Surroundings) :
    (checks s).issues = (unreadable s.text?).map noNumber ++ s.stray.map unexpected := by
  rw [checks, issues_both, issues_readAll_text, issues_refuse]
  rfl

/-- **The settings load exactly if they can be read and no name is stray.** -/
theorem load_eq_ok_iff (s : Surroundings) (x : Settings) :
    load [] s = .ok x ↔ readAll (fun n => (s.text? n).map .text) = .ok x ∧ s.stray = [] := by
  rw [load_eq, mapError_eq_ok_iff, map_eq_ok_iff, ← checks_eq_ok_iff]
  constructor
  · rintro ⟨⟨y, ⟨⟩⟩, hchecks, rfl⟩
    exact hchecks
  · intro h
    exact ⟨_, h, rfl⟩

/-- **Otherwise the issues of both are reported**: the settings whose text is no number, and after
them the stray names. -/
theorem load_eq_error_iff (s : Surroundings) (r : Rejection) :
    load [] s = .error r ↔
      r = ⟨"SideSettings", .value, (unreadable s.text?).map noNumber ++ s.stray.map unexpected⟩ ∧
        r.issues ≠ [] := by
  have hissues := issues_checks s
  rw [load_eq]
  cases h : checks s with
  | ok value =>
      obtain ⟨x, ⟨⟩⟩ := value
      rw [h, Checked.issues_ok] at hissues
      rw [← hissues]
      constructor
      · intro hok
        cases hok
      · rintro ⟨rfl, hne⟩
        exact absurd rfl hne
  | error issues =>
      rw [h, Checked.issues_error] at hissues
      have hne : issues ≠ [] := by
        rintro rfl
        -- without an issue, both checks succeed
        rw [eq_comm, List.append_eq_nil_iff, List.map_eq_nil_iff, List.map_eq_nil_iff] at hissues
        obtain ⟨x, hx⟩ := exists_readAll_text_iff.2 hissues.1
        have hok := (checks_eq_ok_iff s x).2 ⟨hx, hissues.2⟩
        rw [h] at hok
        cases hok
      rw [← hissues]
      constructor
      · intro herror
        cases herror
        exact ⟨rfl, hne⟩
      · rintro ⟨rfl, -⟩
        rfl

/-- Only the texts of the four settings and the stray names make a difference. -/
theorem load_congr {s s' : Surroundings} (htexts : ∀ f ∈ names, s'.text? f = s.text? f)
    (hstray : s'.stray = s.stray) : load [] s' = load [] s := by
  have hrefuse : refuse (strayNames (inSmallLetters s'.fileBindings)) =
      refuse (strayNames (inSmallLetters s.fileBindings)) := by
    unfold Surroundings.stray at hstray
    rw [refuse, refuse, hstray]
  rw [load_eq, load_eq, checks, checks, readAll_text_congr htexts, hrefuse]

/-- What loading comes to tells the stray names. -/
theorem stray_eq_of_load_eq {s s' : Surroundings} (htexts : ∀ f ∈ names, s'.text? f = s.text? f)
    (h : load [] s' = load [] s) : s'.stray = s.stray := by
  cases hload : load [] s with
  | ok x =>
      have hnone := ((load_eq_ok_iff s x).1 hload).2
      rw [hload] at h
      rw [((load_eq_ok_iff s' x).1 h).2, hnone]
  | error r =>
      have hissues := ((load_eq_error_iff s r).1 hload).1
      rw [hload] at h
      have hissues' := ((load_eq_error_iff s' r).1 h).1
      rw [hissues, unreadable_congr htexts] at hissues'
      have happend := congrArg Rejection.issues hissues'
      have hnames := List.append_cancel_left happend
      refine (List.map_injective_iff.2 ?_ hnames).symm
      intro a b hab
      cases hab
      rfl

end Settings

/-- A store that keeps nothing loads the settings. -/
theorem SettingsStore.get_empty (s : Surroundings) :
    (SettingsStore.get {} s).1 = Settings.load [] s := by
  simp only [SettingsStore.get]
  cases Settings.load [] s <;> rfl

end WorkspaceWatch
