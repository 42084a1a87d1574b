/-
**Diagnostics that are set up again.**

Setting diagnostics up with a known level puts one state in force, whatever the state before.  With
an unknown level it breaks off, but it has closed all sinks by then.  So an attempt that fails leaves
no trace in the handlers and in the loggers, and none at all once another attempt succeeds; until
then no record is shown, if diagnostics were ever set up before.

Main definitions:

* `WorkspaceWatch.Level.isKnown` — a text names a level, in any letter case;
* `WorkspaceWatch.Diagnostics.after` — diagnostics after a row of attempts to set them up;
* `WorkspaceWatch.Diagnostics.InForce` — diagnostics are set up for a level.

Main results:

* `WorkspaceWatch.Diagnostics.inForce_setup` — an attempt that succeeds puts its level in force;
* `WorkspaceWatch.Diagnostics.closed_after` — **failures leave no trace but closed sinks**;
* `WorkspaceWatch.Diagnostics.failures_close_sinks` — **what a failure changes, and what is shown
  after it**.
-/

import Mathlib.Data.List.Induction
import WorkspaceWatch.Logging.Diagnostics

set_option autoImplicit false

namespace WorkspaceWatch

/-- Whether a text names a level, in any letter case. -/
def Level.isKnown (level : String) : Bool := (named? (upperCase level)).isSome

theorem Level.isKnown_of_named? {level : String} {threshold : Level}
    (h : named? (upperCase level) = some threshold) : isKnown level = true := by
  rw [isKnown, h]
  rfl

theorem Level.isKnown_of_named?_eq_none {level : String} (h : named? (upperCase level) = none) :
    isKnown level = false := by
  rw [isKnown, h]
  rfl

/-! ### The levels of loggers -/

namespace Loggers

theorem ownLevel?_get (ls : Loggers) (name other : String) :
    (ls.get name).ownLevel? other = ls.ownLevel? other := by
  unfold get
  split <;> rfl

theorem ownLevel?_setLevel (ls : Loggers) (name other : String) (level : Int) :
    (ls.setLevel name level).ownLevel? other =
      if other = name then some level else ls.ownLevel? other := by
  by_cases h : other = name
  · subst h
    simp [ownLevel?, setLevel]
  · have hfind : (ls.levels.filter (·.1 != name)).find? (·.1 == other) =
        ls.levels.find? (·.1 == other) := by
      rw [List.find?_filter]
      congr 1
      funext entry
      by_cases hentry : entry.1 = other
      · simp [hentry, h]
      · simp [hentry]
    simp [ownLevel?, setLevel, h, Ne.symm h, hfind]

theorem ownLevel?_foldl_setLevel (ls : Loggers) (names : List String) (level : Int)
    (other : String) :
    (names.foldl (fun ls name => ls.setLevel name level) ls).ownLevel? other =
      if other ∈ names then some level else ls.ownLevel? other := by
  induction names generalizing ls with
  | nil => simp
  | cons name names ih =>
      rw [List.foldl_cons, ih, ownLevel?_setLevel]
      by_cases hname : other = name
      · simp [hname]
      · simp [hname]

theorem root_foldl_setLevel (ls : Loggers) (names : List String) (level : Int) :
    (names.foldl (fun ls name => ls.setLevel name level) ls).root = ls.root := by
  induction names generalizing ls with
  | nil => rfl
  | cons name names ih =>
      rw [List.foldl_cons, ih]
      unfold setLevel get
      split <;> rfl

end Loggers

namespace Diagnostics

variable {d : Diagnostics} {levels : List String} {level : String} {threshold : Level}

/-! ### One attempt -/

/-- What is set up before does not matter where the sinks are concerned. -/
theorem setup_closed (d : Diagnostics) (level : String) : d.closed.setup level = d.setup level :=
  rfl

/-- An attempt with an unknown level breaks off when the sinks are closed. -/
theorem setup_of_unknown (d : Diagnostics) (h : Level.named? (upperCase level) = none) :
    d.setup level = (.error (upperCase level), d.closed) := by
  simp only [setup, h]

/-- The state that an attempt with a known level leaves. -/
def readied (d : Diagnostics) (threshold : Level) : Diagnostics :=
  ((d.closed.opened (.ofLevel threshold)).bridged).quieted quietLoggers

theorem setup_of_known (d : Diagnostics) (h : Level.named? (upperCase level) = some threshold) :
    d.setup level = (.ok ((d.readied threshold).emit Level.debug.number
      ("Logging initialised (level=" ++ threshold.name ++ ")") .setup), d.readied threshold) := by
  simp only [setup, h, readied]

/-- Diagnostics are set up for a level. -/
structure InForce (d : Diagnostics) (threshold : Level) : Prop where
  /-- There is one sink, for that level and in its style. -/
  sinks : d.sinks = [.ofLevel threshold]
  /-- There is one handler, which hands records over to it. -/
  handlers : d.handlers = [.bridge]
  /-- The root passes on everything. -/
  root : d.loggers.root = 0
  /-- The loggers of the transport are held to warnings. -/
  quiet : ∀ name ∈ quietLoggers,
    d.loggers.ownLevel? name = some Level.warning.number

theorem inForce_readied (d : Diagnostics) (threshold : Level) :
    (d.readied threshold).InForce threshold := by
  refine ⟨rfl, rfl, ?_, ?_⟩
  · exact Loggers.root_foldl_setLevel _ _ _
  · intro name hname
    have hown := Loggers.ownLevel?_foldl_setLevel (d.loggers.setRoot 0) quietLoggers
      Level.warning.number name
    rw [if_pos hname] at hown
    exact hown

/-- **An attempt that succeeds puts its level in force**, whatever was set up before. -/
theorem inForce_setup (d : Diagnostics) (h : Level.named? (upperCase level) = some threshold) :
    (d.setup level).2.InForce threshold := by
  rw [setup_of_known d h]
  exact inForce_readied d threshold

/-! ### A row of attempts -/

/-- Diagnostics after a row of attempts to set them up. -/
def after (d : Diagnostics) (levels : List String) : Diagnostics :=
  levels.foldl (fun d level => (d.setup level).2) d

theorem after_append_singleton (d : Diagnostics) (levels : List String) (level : String) :
    d.after (levels ++ [level]) = ((d.after levels).setup level).2 := by
  simp only [after, List.foldl_append, List.foldl_cons, List.foldl_nil]

/-- **Failures leave no trace but closed sinks.** -/
theorem closed_after (d : Diagnostics) (levels : List String) :
    (d.after levels).closed = (d.after (levels.filter Level.isKnown)).closed := by
  -- along the row: the sinks that an attempt finds do not matter to it, so neither do the failures
  -- before it
  induction levels using List.reverseRecOn with
  | nil => rfl
  | append_singleton levels level ih =>
      rw [after_append_singleton, List.filter_append]
      cases h : Level.named? (upperCase level) with
      | none =>
          have hfilter : [level].filter Level.isKnown = [] := by
            simp [Level.isKnown_of_named?_eq_none h]
          rw [setup_of_unknown _ h, hfilter, List.append_nil, ← ih]
          rfl
      | some threshold =>
          have hfilter : [level].filter Level.isKnown = [level] := by
            simp [Level.isKnown_of_named? h]
          rw [hfilter, after_append_singleton, ← setup_closed (d.after levels), ih, setup_closed]

/-- After a failure, diagnostics are those of the attempts that succeeded, with closed sinks. -/
theorem after_append_unknown (d : Diagnostics) (levels : List String)
    (h : Level.named? (upperCase level) = none) :
    d.after (levels ++ [level]) = (d.after (levels.filter Level.isKnown)).closed := by
  rw [after_append_singleton, setup_of_unknown _ h, ← closed_after]

/-- After a success, the failures before it might as well not have been. -/
theorem after_append_known (d : Diagnostics) (levels : List String)
    (h : Level.named? (upperCase level) = some threshold) :
    d.after (levels ++ [level]) = d.after (levels.filter Level.isKnown ++ [level]) ∧
      (d.after (levels ++ [level])).InForce threshold := by
  rw [after_append_singleton, after_append_singleton]
  refine ⟨?_, inForce_setup _ h⟩
  rw [← setup_closed (d.after levels), closed_after, setup_closed]

/-! ### Records -/

/-- A record is shown as the handlers and sinks have it, if its logger passes it on. -/
theorem log_eq (d : Diagnostics) (logger message : String) (k : Int) (arguments : List Json) :
    (d.log logger k message arguments).1 =
      if ((d.loggers.get logger).passes logger k).1 then
        (Message.fill message arguments).map (d.display k)
      else .ok "" := rfl

/-- Without a sink, the handler that is set up shows nothing. -/
theorem display_closed_of_bridge (h : d.handlers = [.bridge]) (k : Int) (message : String) :
    d.closed.display k message = "" := by
  simp only [display, closed, h]
  rfl

/-- Other handlers do not look at the sinks. -/
theorem display_closed (h : .bridge ∉ d.handlers) (k : Int) (message : String) :
    d.closed.display k message = d.display k message := by
  have hhandle : ∀ handler ∈ d.handlers,
      d.closed.handle k message handler = d.handle k message handler := by
    intro handler hhandler
    cases handler with
    | bridge => exact absurd hhandler h
    | plain least => rfl
  unfold display
  rw [show d.closed.handlers = d.handlers from rfl]
  cases hd : d.handlers with
  | nil => rfl
  | cons first more =>
      rw [hd] at hhandle
      exact congrArg "".intercalate (List.map_congr_left hhandle)

/-- No record is shown once the sinks of the handler that is set up are closed. -/
theorem eq_empty_of_log_closed (hhandlers : d.handlers = [.bridge]) {logger message text : String}
    {k : Int} {arguments : List Json}
    (h : (d.closed.log logger k message arguments).1 = .ok text) : text = "" := by
  rw [log_eq] at h
  split at h
  · cases hfill : Message.fill message arguments with
    | error e =>
        rw [hfill] at h
        cases h
    | ok m =>
        rw [hfill] at h
        rw [← Except.ok.inj h, display_closed_of_bridge hhandlers]
  · exact (Except.ok.inj h).symm

/-- Records that do not reach the sinks are shown as before. -/
theorem log_closed (h : .bridge ∉ d.handlers) (logger message : String) (k : Int)
    (arguments : List Json) :
    (d.closed.log logger k message arguments).1 = (d.log logger k message arguments).1 := by
  rw [log_eq, log_eq, funext (display_closed h k)]
  rfl

/-! ### What a failure changes -/

/-- **What a failure changes, and what is shown after it.**  An attempt with an unknown level fails,
closes the sinks and leaves the rest as it was; so it changes nothing exactly if there was no sink.
Other failures leave no trace, before this one or before a success, which puts its level in force.
If an attempt succeeded before, the handlers and loggers of the last one stay, and no record is shown
any more; if none ever did, records that other handlers take are shown as before. -/
theorem failures_close_sinks (d : Diagnostics) (levels : List String)
    (hlevel : Level.named? (upperCase level) = none) :
    (d.after levels).setup level = (.error (upperCase level), { d.after levels with sinks := [] }) ∧
    (((d.after levels).setup level).2 = d.after levels ↔ (d.after levels).sinks = []) ∧
    d.after (levels ++ [level]) =
      { d.after (levels.filter Level.isKnown) with sinks := [] } ∧
    (∀ last threshold, Level.named? (upperCase last) = some threshold →
      d.after (levels ++ [last]) = d.after (levels.filter Level.isKnown ++ [last]) ∧
      (d.after (levels ++ [last])).InForce threshold) ∧
    (∀ last threshold, (levels.filter Level.isKnown).getLast? = some last →
      Level.named? (upperCase last) = some threshold →
      (∃ before : Diagnostics, before.InForce threshold ∧
        d.after (levels ++ [level]) = { before with sinks := [] }) ∧
      ∀ logger k message arguments text,
        ((d.after (levels ++ [level])).log logger k message arguments).1 = .ok text → text = "") ∧
    (levels.filter Level.isKnown = [] → .bridge ∉ d.handlers → ∀ logger k message arguments,
      ((d.after (levels ++ [level])).log logger k message arguments).1 =
        (d.log logger k message arguments).1) := by
  have hfails := setup_of_unknown (d.after levels) hlevel
  have hafter := after_append_unknown d levels hlevel
  refine ⟨hfails, ?_, hafter, fun last threshold => after_append_known d levels, ?_, ?_⟩
  · rw [hfails]
    exact ⟨fun h => (congrArg sinks h).symm, fun h => by simp only [closed, ← h]⟩
  · intro last threshold hlast hknown
    -- the attempts that succeeded end with one that puts its level in force
    have hinForce : (d.after (levels.filter Level.isKnown)).InForce threshold := by
      obtain ⟨before, hbefore⟩ := List.getLast?_eq_some_iff.1 hlast
      rw [hbefore, after_append_singleton]
      exact inForce_setup _ hknown
    refine ⟨⟨_, hinForce, hafter⟩, ?_⟩
    intro logger k message arguments text htext
    rw [hafter] at htext
    exact eq_empty_of_log_closed hinForce.handlers htext
  · intro hnone hhandlers logger k message arguments
    rw [hafter, hnone]
    exact log_closed hhandlers logger message k arguments

/-- After a success, a failure leaves handlers and loggers for its level, and shows nothing. -/
theorem failures_close_sinks_loud :
    Level.named? (upperCase "loud") = none ∧
      (∃ before : Diagnostics, before.InForce .info ∧
        ({} : Diagnostics).after ["warn", "Info", "loud"] = { before with sinks := [] }) ∧
      ((({} : Diagnostics).after ["warn", "Info", "loud"]).log "app" 50 "m" []).1 = .ok "" := by
  have hloud : Level.named? (upperCase "loud") = none := by decide
  have hlast : (["warn", "Info"].filter Level.isKnown).getLast? = some "Info" := by decide
  have hknown : Level.named? (upperCase "Info") = some .info := by decide
  obtain ⟨-, -, -, -, hlatest, -⟩ := failures_close_sinks {} ["warn", "Info"] hloud
  obtain ⟨hbefore, hempty⟩ := hlatest "Info" .info hlast hknown
  obtain ⟨text, htext⟩ : ∃ text,
      ((({} : Diagnostics).after ["warn", "Info", "loud"]).log "app" 50 "m" []).1 = .ok text :=
    ⟨_, rfl⟩
  refine ⟨hloud, hbefore, ?_⟩
  rw [htext, hempty _ _ _ _ _ htext]

/-- A record that is shown before an attempt that fails is not shown after it. -/
theorem failure_silences :
    ((({} : Diagnostics).after ["INFO"]).log "app" 30 "m" []).1 = .ok "WARNING: m\n" ∧
      ((({} : Diagnostics).after ["INFO"]).setup "LOUD").1 = .error "LOUD" ∧
      ((({} : Diagnostics).after ["INFO"]).setup "LOUD").2 ≠ ({} : Diagnostics).after ["INFO"] ∧
      (((({} : Diagnostics).after ["INFO"]).setup "LOUD").2.log "app" 30 "m" []).1 = .ok "" := by
  refine ⟨rfl, rfl, ?_, rfl⟩
  decide

end Diagnostics

end WorkspaceWatch
