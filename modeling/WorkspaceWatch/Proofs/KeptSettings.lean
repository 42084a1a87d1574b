/-
**Settings that are kept.**

A store reads the settings each time that they are asked for, until it could read them; from then on
it gives those, whatever becomes of the environment and the settings file, until it is cleared.  So
what it gives are the settings of the surroundings at one moment of its history: that at which they
were first given since the store was cleared, or the present one if they never were.

Main definitions:

* `WorkspaceWatch.Surroundings.after` — the surroundings after a row of events;
* `WorkspaceWatch.SettingsState.reply` — what is given to who asks for the settings after a row of
  events;
* `WorkspaceWatch.SettingsState.FirstGiven` — when the settings were first given.

Main results:

* `WorkspaceWatch.SettingsState.exists_firstGiven` — settings that are kept were given at some time;
* `WorkspaceWatch.SettingsState.FirstGiven.reply_eq` — **what is given are the settings of that
  time**;
* `WorkspaceWatch.SettingsState.reply_follows_history` — **what a store gives is decided by its
  history**, however often the surroundings change and the store is cleared.
-/

import Mathlib.Data.List.Induction
import WorkspaceWatch.Proofs.SettingsLoad

set_option autoImplicit false

namespace WorkspaceWatch

/-! ### The surroundings after a row of events -/

/-- The surroundings after an event; those of a store that is cleared or asked stay as they are. -/
def Surroundings.next (s : Surroundings) : SettingsEvent → Surroundings
  | .bind name value => s.bind name value
  | .unbind name => s.unbind name
  | .write file? => { s with file? }
  | .clear | .load _ | .get => s

/-- The surroundings after a row of events. -/
def Surroundings.after (s : Surroundings) (events : List SettingsEvent) : Surroundings :=
  events.foldl next s

theorem Surroundings.after_append (s : Surroundings) (before more : List SettingsEvent) :
    s.after (before ++ more) = (s.after before).after more :=
  List.foldl_append

namespace SettingsState

variable {s : SettingsState} {events before later : List SettingsEvent} {x : Settings}

/-- No store has a part in its surroundings. -/
theorem surroundings_after (s : SettingsState) (events : List SettingsEvent) :
    (s.after events).surroundings = s.surroundings.after events := by
  induction events generalizing s with
  | nil => rfl
  | cons e events ih =>
      have hnext : (s.next e).surroundings = s.surroundings.next e := by cases e <;> rfl
      have hlater := ih (s.next e)
      rw [hnext] at hlater
      exact hlater

theorem after_append_singleton (s : SettingsState) (events : List SettingsEvent)
    (e : SettingsEvent) : s.after (events ++ [e]) = (s.after events).next e :=
  s.after_append events [e]

/-! ### What a store keeps -/

/-- What is given to who asks for the settings after a row of events. -/
def reply (s : SettingsState) (events : List SettingsEvent) : Except Rejection Settings :=
  ((s.after events).store.get (s.after events).surroundings).1

theorem reply_of_kept (h : (s.after events).store.kept? = some x) : s.reply events = .ok x := by
  simp only [reply, SettingsStore.get, h]

theorem reply_of_empty (h : (s.after events).store.kept? = none) :
    s.reply events = Settings.load [] (s.surroundings.after events) := by
  rw [← surroundings_after]
  simp only [reply, SettingsStore.get, h]
  cases Settings.load [] (s.after events).surroundings <;> rfl

/-- Settings that are given are kept. -/
theorem kept?_of_reply_eq_ok (h : s.reply events = .ok x) :
    (s.after (events ++ [.get])).store.kept? = some x := by
  rw [after_append_singleton]
  cases hkept : (s.after events).store.kept? with
  | some y =>
      rw [reply_of_kept hkept] at h
      cases h
      simp only [next, SettingsStore.get, hkept]
  | none =>
      rw [reply_of_empty hkept, ← surroundings_after] at h
      simp only [next, SettingsStore.get, hkept, h]

/-- **A failure is not kept**: it leaves everything as it was. -/
theorem after_of_reply_eq_error {r : Rejection} (h : s.reply events = .error r) :
    s.after (events ++ [.get]) = s.after events := by
  rw [after_append_singleton]
  cases hkept : (s.after events).store.kept? with
  | some y =>
      rw [reply_of_kept hkept] at h
      cases h
  | none =>
      rw [reply_of_empty hkept, ← surroundings_after] at h
      simp only [next, SettingsStore.get, hkept, h]

/-- Settings that are kept stay so, unless the store is cleared. -/
theorem kept?_after {more : List SettingsEvent} (h : s.store.kept? = some x)
    (hmore : .clear ∉ more) : (s.after more).store.kept? = some x := by
  induction more generalizing s with
  | nil => exact h
  | cons e more ih =>
      rw [List.mem_cons, not_or] at hmore
      have hnext : (s.next e).store.kept? = some x := by
        cases e with
        | clear => exact absurd rfl hmore.1
        | get => simp only [next, SettingsStore.get, h]
        | _ => exact h
      exact ih hnext hmore.2

theorem kept?_append_get (h : s.reply before = .ok x) (hlater : .clear ∉ later) :
    (s.after (before ++ .get :: later)).store.kept? = some x := by
  have hsplit : before ++ SettingsEvent.get :: later = (before ++ [.get]) ++ later := by simp
  rw [hsplit, after_append]
  exact kept?_after (kept?_of_reply_eq_ok h) hlater

/-! ### When settings were first given -/

/-- The settings were first given after the events `before`, since the store was last cleared. -/
structure FirstGiven (s : SettingsState) (events before : List SettingsEvent) : Prop where
  /-- They were asked for then, and the store was not cleared any more. -/
  asked : ∃ later, events = before ++ .get :: later ∧ .clear ∉ later
  /-- They were given. -/
  given : ∃ x, s.reply before = .ok x
  /-- Since the store was cleared, they had only been asked for in vain. -/
  first : ∀ earlier between, before = earlier ++ .get :: between → .clear ∉ between →
    ∃ r, s.reply earlier = .error r

theorem FirstGiven.append_singleton (h : s.FirstGiven events before) {e : SettingsEvent}
    (he : e ≠ .clear) : s.FirstGiven (events ++ [e]) before := by
  obtain ⟨later, rfl, hlater⟩ := h.asked
  refine ⟨⟨later ++ [e], by simp, ?_⟩, h.given, h.first⟩
  rw [List.mem_append, List.mem_singleton, not_or]
  exact ⟨hlater, he.symm⟩

/-- **Settings that are kept were given at some time**, for the first time since the store was
cleared. -/
theorem exists_firstGiven (hs : s.store.kept? = none)
    (h : (s.after events).store.kept? = some x) : ∃ before, s.FirstGiven events before := by
  -- along the history: only asking fills the store, and only clearing empties it
  induction events using List.reverseRecOn generalizing x with
  | nil =>
      rw [after, List.foldl_nil, hs] at h
      cases h
  | append_singleton events e ih =>
      have hstays : e ≠ .clear → (s.after events).store.kept? = some x →
          ∃ before, s.FirstGiven (events ++ [e]) before := by
        intro he hkept
        obtain ⟨before, hbefore⟩ := ih hkept
        exact ⟨before, hbefore.append_singleton he⟩
      rw [after_append_singleton] at h
      cases e with
      | bind name value => exact hstays (by simp) h
      | unbind name => exact hstays (by simp) h
      | write file? => exact hstays (by simp) h
      | load arguments => exact hstays (by simp) h
      | clear => cases h
      | get =>
          cases hkept : (s.after events).store.kept? with
          | some y =>
              simp only [next, SettingsStore.get, hkept] at h
              exact hstays (by simp) (hkept.trans h)
          | none =>
              -- the store was empty, so it had never been asked with success
              refine ⟨events, ⟨[], rfl, List.not_mem_nil⟩, ?_, ?_⟩
              · cases hreply : s.reply events with
                | ok y => exact ⟨y, rfl⟩
                | error r =>
                    have hsame := after_of_reply_eq_error hreply
                    rw [after_append_singleton] at hsame
                    rw [hsame, hkept] at h
                    cases h
              · rintro earlier between rfl hbetween
                cases hreply : s.reply earlier with
                | error r => exact ⟨r, rfl⟩
                | ok y =>
                    rw [kept?_append_get hreply hbetween] at hkept
                    cases hkept

/-- Until the settings are first given, the store is empty. -/
theorem FirstGiven.kept?_eq_none (hs : s.store.kept? = none) (h : s.FirstGiven events before) :
    (s.after before).store.kept? = none := by
  cases hkept : (s.after before).store.kept? with
  | none => rfl
  | some y =>
      obtain ⟨earlier, hearlier⟩ := exists_firstGiven hs hkept
      obtain ⟨between, hbefore, hbetween⟩ := hearlier.asked
      obtain ⟨z, hz⟩ := hearlier.given
      obtain ⟨r, hr⟩ := h.first earlier between hbefore hbetween
      rw [hz] at hr
      cases hr

/-- **What is given are the settings of the time when they were first given.** -/
theorem FirstGiven.reply_eq (hs : s.store.kept? = none) (h : s.FirstGiven events before) :
    ∃ x, Settings.load [] (s.surroundings.after before) = .ok x ∧ s.reply events = .ok x := by
  obtain ⟨x, hx⟩ := h.given
  obtain ⟨later, rfl, hlater⟩ := h.asked
  refine ⟨x, ?_, reply_of_kept (kept?_append_get hx hlater)⟩
  rw [← reply_of_empty (h.kept?_eq_none hs), hx]

/-- Nothing that was given later was the first. -/
theorem FirstGiven.not_append_get (h : s.FirstGiven events before) (between : List SettingsEvent) :
    ¬s.FirstGiven events (before ++ .get :: between) := by
  intro h'
  obtain ⟨later, hevents, hlater⟩ := h.asked
  obtain ⟨later', hevents', -⟩ := h'.asked
  rw [hevents, List.append_assoc] at hevents'
  have htail := (List.cons.inj (List.append_cancel_left hevents')).2
  have hbetween : SettingsEvent.clear ∉ between := by
    intro hmem
    rw [htail] at hlater
    exact hlater (List.mem_append_left _ hmem)
  obtain ⟨y, hy⟩ := h.given
  obtain ⟨r, hr⟩ := h'.first before between rfl hbetween
  rw [hy] at hr
  cases hr

/-- There is one such time at most. -/
theorem FirstGiven.unique (h : s.FirstGiven events before) {other : List SettingsEvent}
    (h' : s.FirstGiven events other) : other = before := by
  obtain ⟨later, hevents, -⟩ := h.asked
  obtain ⟨later', hevents', -⟩ := h'.asked
  -- one of the two rows of events begins with the other
  rcases List.append_eq_append_iff.1 (hevents.symm.trans hevents') with
    ⟨between, rfl, hrest⟩ | ⟨between, rfl, hrest⟩
  · cases between with
    | nil => exact List.append_nil before
    | cons e between =>
        obtain ⟨rfl, -⟩ := List.cons.inj hrest
        exact absurd h' (h.not_append_get between)
  · cases between with
    | nil => exact (List.append_nil other).symm
    | cons e between =>
        obtain ⟨rfl, -⟩ := List.cons.inj hrest
        exact absurd h (h'.not_append_get between)

/-- A store in its surroundings, before anything was asked of it. -/
def fresh (surroundings : Surroundings) : SettingsState := { surroundings }

/-- A store that was just cleared gives the settings of the present surroundings. -/
theorem reply_append_clear (s : SettingsState) (events : List SettingsEvent) :
    s.reply (events ++ [.clear]) = Settings.load [] (s.surroundings.after events) := by
  have hempty : (s.after (events ++ [.clear])).store.kept? = none := by
    rw [after_append_singleton]
    rfl
  rw [reply_of_empty hempty, Surroundings.after_append]
  rfl

/-- **What a store gives is decided by its history.**  If settings were given since the store was
last cleared, they are those of the surroundings in which they were first given; otherwise those of
the present surroundings, or the failure to read them.  So a change of the surroundings is not seen
before the store is cleared, a failure is not kept, and clearing alone changes nothing that is read
again in the same surroundings. -/
theorem reply_follows_history (surroundings : Surroundings) (events : List SettingsEvent) :
    (∀ before, (fresh surroundings).FirstGiven events before →
      (∀ other, (fresh surroundings).FirstGiven events other → other = before) ∧
      ∃ x, Settings.load [] (surroundings.after before) = .ok x ∧
        ((fresh surroundings).after events).answer? .get = some (.ok x) ∧
        (surroundings.after events = surroundings.after before →
          ((fresh surroundings).after (events ++ [.clear])).answer? .get = some (.ok x))) ∧
    ((∀ before, ¬(fresh surroundings).FirstGiven events before) →
      ((fresh surroundings).after events).answer? .get =
        some (Settings.load [] (surroundings.after events))) ∧
    (∀ x, ((fresh surroundings).after events).answer? .get = some (.ok x) →
      ∀ later, .clear ∉ later →
        ((fresh surroundings).after (events ++ .get :: later)).answer? .get = some (.ok x)) ∧
    (∀ r, ((fresh surroundings).after events).answer? .get = some (.error r) →
      (fresh surroundings).after (events ++ [.get]) = (fresh surroundings).after events) ∧
    ((fresh surroundings).after (events ++ [.clear])).answer? .get =
      some (Settings.load [] (surroundings.after events)) := by
  have hcleared := reply_append_clear (fresh surroundings) events
  refine ⟨?_, ?_, ?_, ?_, congrArg some hcleared⟩
  · intro before h
    obtain ⟨x, hload, hreply⟩ := h.reply_eq rfl
    refine ⟨fun other h' => h.unique h', x, hload, congrArg some hreply, ?_⟩
    intro hsame
    have hagain : (fresh surroundings).surroundings.after events = surroundings.after before := hsame
    rw [hagain] at hcleared
    exact congrArg some (hcleared.trans hload)
  · intro hnever
    refine congrArg some (reply_of_empty ?_)
    cases hkept : ((fresh surroundings).after events).store.kept? with
    | none => rfl
    | some x =>
        obtain ⟨before, h⟩ := exists_firstGiven rfl hkept
        exact absurd h (hnever before)
  · intro x hx later hlater
    exact congrArg some (reply_of_kept (kept?_append_get (Option.some.inj hx) hlater))
  · intro r hr
    exact after_of_reply_eq_error (Option.some.inj hr)

end SettingsState

end WorkspaceWatch
