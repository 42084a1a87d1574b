/-
**Records that are shown.**

A record is looked at three times: its logger may hold it back, the handler takes it, and the sink
shows it from a level on.  However often diagnostics were set up before, there is one handler and one
sink, so a record is shown once or not at all; and the label and the message are shown as they are.

Main definitions:

* `WorkspaceWatch.Level.IsLabel` — how a level is told;
* `WorkspaceWatch.Diagnostics.IsQuiet` — a logger stands below one that is held to warnings.

Main results:

* `WorkspaceWatch.Diagnostics.InForce.display_eq` — what the handler and the sink show;
* `WorkspaceWatch.Diagnostics.passes_after` — what the loggers pass on;
* `WorkspaceWatch.Diagnostics.records_shown_once` — **which records are shown, and how**.
-/

import WorkspaceWatch.Proofs.LoggerTree
import WorkspaceWatch.Proofs.SettingUp

set_option autoImplicit false

namespace WorkspaceWatch

/-! ### Labels -/

/-- How a level is told: by its name, if records carry one for it, and else by its number. -/
inductive Level.IsLabel : Int → String → Prop
  | named {l : Level} : l ∈ ofRecords → IsLabel l.number l.name
  | number {k : Int} : (∀ l ∈ ofRecords, l.number ≠ k) → IsLabel k ("Level " ++ toString k)

theorem Level.isLabel_iff {k : Int} {label : String} : IsLabel k label ↔ label = levelLabel k := by
  constructor
  · rintro (hl | hnone)
    · have hnames : ∀ l ∈ ofRecords, l.name = levelLabel l.number := by decide
      exact hnames _ hl
    · have hfind : ofRecords.find? (·.number == k) = none := by
        simpa using hnone
      rw [levelLabel, hfind]
  · rintro rfl
    unfold levelLabel
    cases hfind : ofRecords.find? (·.number == k) with
    | some l =>
        obtain rfl : l.number = k := by simpa using List.find?_some hfind
        exact .named (List.mem_of_find?_eq_some hfind)
    | none =>
        refine .number fun l hl => ?_
        simpa using List.find?_eq_none.1 hfind l hl

/-- A record from a logger, in the style with time and place. -/
theorem LineStyle.line_detailed (label message : String) :
    detailed.line label message .user =
      "HH:MM:SS.mmm | " ++ padLabel 8 label ++ " | CALLER - " ++ message ++ "\n" := by
  have hplace : " | CALLER - " = " | " ++ "CALLER" ++ " - " := by decide
  rw [hplace, ← String.append_assoc, ← String.append_assoc]
  rfl

/-- Every level that can be chosen is above zero. -/
theorem Level.number_pos (l : Level) : 0 < l.number := by
  cases l <;> decide

/-! ### Loggers after a success -/

namespace Loggers

variable {ls : Loggers}

theorem mem_names_get (ls : Loggers) (name : String) : name ∈ (ls.get name).names := by
  unfold get
  split
  · next h => exact List.contains_iff_mem.1 h
  · exact List.mem_append_right _ List.mem_cons_self

theorem mem_names_get_of_mem {name : String} (h : name ∈ ls.names) (other : String) :
    name ∈ (ls.get other).names := by
  unfold get
  split
  · exact h
  · exact List.mem_append_left _ h

theorem mem_names_foldl_setLevel {names : List String} {name : String}
    (h : name ∈ ls.names ∨ name ∈ names) (level : Int) :
    name ∈ (names.foldl (fun ls name => ls.setLevel name level) ls).names := by
  induction names generalizing ls with
  | nil => exact h.resolve_right List.not_mem_nil
  | cons first names ih =>
      refine ih ?_
      rcases h with h | h
      · exact .inl (mem_names_get_of_mem h first)
      · rcases List.mem_cons.1 h with rfl | h
        · exact .inl (mem_names_get ls name)
        · exact .inr h

@[simp] theorem root_get (ls : Loggers) (name : String) : (ls.get name).root = ls.root := by
  unfold get
  split <;> rfl

@[simp] theorem answers_get (ls : Loggers) (name : String) :
    (ls.get name).answers = ls.answers := by
  unfold get
  split <;> rfl

@[simp] theorem root_passes (ls : Loggers) (name : String) (level : Int) :
    (ls.passes name level).2.root = ls.root := by
  unfold passes
  split <;> rfl

@[simp] theorem ownLevel?_passes (ls : Loggers) (name : String) (level : Int) (other : String) :
    (ls.passes name level).2.ownLevel? other = ls.ownLevel? other := by
  unfold passes
  split <;> rfl

/-- A logger that has not answered yet compares the level with its own. -/
theorem passes_of_answers_eq_nil (h : ls.answers = []) (name : String) (level : Int) :
    (ls.passes name level).1 = (decide (0 < level) && decide (ls.effectiveLevel name ≤ level)) := by
  unfold passes
  rw [h]
  rfl

end Loggers

namespace Diagnostics

variable {d : Diagnostics} {threshold : Level} {last : String}

/-! ### The handler and the sink -/

theorem InForce.emit_eq (h : d.InForce threshold) (k : Int) (message : String) (caller : Caller) :
    d.emit k message caller =
      if threshold.number ≤ k then
        (LineStyle.ofLevel threshold).line (levelLabel k) message caller
      else "" := by
  simp only [emit, h.sinks, List.map_cons, List.map_nil, String.intercalate_singleton, Sink.shown,
    Sink.ofLevel]

/-- **What the handler and the sink show** of a record that reaches them. -/
theorem InForce.display_eq (h : d.InForce threshold) (k : Int) (message : String) :
    d.display k message =
      if threshold.number ≤ k then
        (LineStyle.ofLevel threshold).line (levelLabel k) message .user
      else "" := by
  simp only [display, h.handlers, handle, h.emit_eq, List.map_cons, List.map_nil,
    String.intercalate_singleton]

/-- A record that is sent leaves diagnostics set up as they are. -/
theorem InForce.log (h : d.InForce threshold) (logger : String) (k : Int) (message : String)
    (arguments : List Json) : (d.log logger k message arguments).2.InForce threshold where
  sinks := h.sinks
  handlers := h.handlers
  root := by
    simp only [Diagnostics.log, Loggers.root_passes, Loggers.root_get, h.root]
  quiet := by
    intro name hname
    simp only [Diagnostics.log, Loggers.ownLevel?_passes, Loggers.ownLevel?_get,
      h.quiet name hname]

/-- A record below the level is not shown. -/
theorem InForce.log_of_lt (h : d.InForce threshold) {k : Int} (hk : k < threshold.number)
    (logger message : String) : (d.log logger k message []).1 = .ok "" := by
  have hdisplay := h.display_eq k message
  rw [if_neg (Int.not_le.2 hk)] at hdisplay
  rw [log_eq]
  split
  · exact congrArg Except.ok hdisplay
  · rfl

/-! ### The loggers -/

/-- No logger has been given a level but those that are held to warnings. -/
def LeavesLevels (d : Diagnostics) : Prop :=
  ∀ name own, d.loggers.ownLevel? name = some own → name ∈ quietLoggers

/-- A logger stands below one that is held to warnings. -/
def IsQuiet (d : Diagnostics) (logger : String) : Prop :=
  ∃ name ∈ quietLoggers, (d.loggers.get logger).IsBelow name logger

/-- Setting diagnostics up gives no level to other loggers. -/
theorem LeavesLevels.setup (h : d.LeavesLevels) (level : String) :
    (d.setup level).2.LeavesLevels := by
  cases hknown : Level.named? (upperCase level) with
  | none =>
      rw [setup_of_unknown d hknown]
      exact h
  | some threshold =>
      rw [setup_of_known d hknown]
      intro name own hown
      have hfold := Loggers.ownLevel?_foldl_setLevel (d.loggers.setRoot 0) quietLoggers
        Level.warning.number name
      by_cases hname : name ∈ quietLoggers
      · exact hname
      · rw [if_neg hname] at hfold
        exact h name own (hfold.symm.trans hown)

theorem LeavesLevels.after (h : d.LeavesLevels) (levels : List String) :
    (d.after levels).LeavesLevels := by
  induction levels using List.reverseRecOn with
  | nil => exact h
  | append_singleton levels level ih =>
      rw [after_append_singleton]
      exact ih.setup level

/-- After a success, the loggers that are held to warnings are there, and none has answered yet. -/
theorem loggers_setup_of_known (d : Diagnostics) {level : String}
    (h : Level.named? (upperCase level) = some threshold) :
    (∀ name ∈ quietLoggers, name ∈ (d.setup level).2.loggers.names) ∧
      (d.setup level).2.loggers.answers = [] := by
  rw [setup_of_known d h]
  exact ⟨fun name hname => Loggers.mem_names_foldl_setLevel (.inr hname) _, rfl⟩

section After

variable (h : d.LeavesLevels) (before : List String)
  (hlast : Level.named? (upperCase last) = some threshold) (logger : String)
include hlast

/-- A logger without neighbouring dots in its name stands below one that is held to warnings if its
name goes on from that one's. -/
theorem isQuiet_after_iff (hplain : ¬['.', '.'] <:+: logger.toList) :
    (d.after (before ++ [last])).IsQuiet logger ↔
      ∃ name ∈ quietLoggers, Loggers.GoesOn name logger := by
  refine exists_congr fun name => and_congr_right fun hname => ?_
  have hmem : name ∈ ((d.after (before ++ [last])).loggers.get logger).names := by
    refine Loggers.mem_names_get_of_mem ?_ logger
    rw [after_append_singleton]
    exact (loggers_setup_of_known _ hlast).1 name hname
  have hne : name ≠ "" := by
    rintro rfl
    revert hname
    decide
  exact Loggers.isBelow_iff_goesOn hmem hne hplain

include h

/-- **What the loggers pass on** after a success: everything, or warnings and what is above them. -/
theorem passes_after (k : Int) :
    (((d.after (before ++ [last])).loggers.get logger).passes logger k).1 = true ↔
      0 < k ∧ ((d.after (before ++ [last])).IsQuiet logger → Level.warning.number ≤ k) := by
  have hinForce := (after_append_known d before hlast).2
  have hleaves := h.after (before ++ [last])
  have hanswers : (d.after (before ++ [last])).loggers.answers = [] := by
    rw [after_append_singleton]
    exact (loggers_setup_of_known _ hlast).2
  have hown : ∀ name own,
      ((d.after (before ++ [last])).loggers.get logger).ownLevel? name = some own →
        name ∈ quietLoggers ∧ own = Level.warning.number := by
    intro name own hname
    rw [Loggers.ownLevel?_get] at hname
    have hquiet := hleaves name own hname
    rw [hinForce.quiet name hquiet] at hname
    exact ⟨hquiet, (Option.some.inj hname).symm⟩
  rw [Loggers.passes_of_answers_eq_nil ((Loggers.answers_get _ _).trans hanswers),
    Bool.and_eq_true, decide_eq_true_iff, decide_eq_true_iff]
  refine and_congr_right fun hk => ?_
  by_cases hquiet : (d.after (before ++ [last])).IsQuiet logger
  · obtain ⟨top, htop, hbelow⟩ := hquiet
    have htopOwn : ((d.after (before ++ [last])).loggers.get logger).ownLevel? top =
        some Level.warning.number := by
      rw [Loggers.ownLevel?_get]
      exact hinForce.quiet top htop
    rw [Loggers.effectiveLevel_of_isBelow htopOwn (fun name own hname => (hown name own hname).2)
      hbelow]
    exact ⟨fun hle _ => hle, fun hle => hle ⟨top, htop, hbelow⟩⟩
  · have hfree : ∀ top own,
        ((d.after (before ++ [last])).loggers.get logger).ownLevel? top = some own →
          ¬((d.after (before ++ [last])).loggers.get logger).IsBelow top logger :=
      fun top own htop hbelow => hquiet ⟨top, (hown top own htop).1, hbelow⟩
    rw [Loggers.effectiveLevel_of_free hfree, Loggers.root_get, hinForce.root]
    exact ⟨fun _ hq => absurd hq hquiet, fun _ => Int.le_of_lt hk⟩

/-- A record is shown in the style of the level if the level and its logger let it through. -/
theorem log_after {k : Int} {message m : String} {arguments : List Json}
    (hm : Message.fill message arguments = .ok m) :
    (threshold.number ≤ k ∧
        ((d.after (before ++ [last])).IsQuiet logger → Level.warning.number ≤ k) →
      ((d.after (before ++ [last])).log logger k message arguments).1 =
        .ok ((LineStyle.ofLevel threshold).line (levelLabel k) m .user)) ∧
    (¬(threshold.number ≤ k ∧
        ((d.after (before ++ [last])).IsQuiet logger → Level.warning.number ≤ k)) →
      ((d.after (before ++ [last])).log logger k message arguments).1 = .ok "") := by
  have hinForce := (after_append_known d before hlast).2
  have hpasses := passes_after h before hlast logger k
  have hdisplay := hinForce.display_eq k m
  rw [log_eq, hm]
  constructor
  · rintro ⟨hle, hquiet⟩
    rw [if_pos (hpasses.2 ⟨Int.lt_of_lt_of_le threshold.number_pos hle, hquiet⟩)]
    rw [if_pos hle] at hdisplay
    exact congrArg Except.ok hdisplay
  · intro hnot
    split
    · next hpass =>
        -- the logger passes it on, so the sink does not show it
        have hlt : ¬threshold.number ≤ k := fun hle => hnot ⟨hle, (hpasses.1 hpass).2⟩
        rw [if_neg hlt] at hdisplay
        exact congrArg Except.ok hdisplay
    · rfl

end After

/-- **Which records are shown, and how.**  However often diagnostics were set up before, after a
success for a level a record is shown once if it has that level or a higher one, and at least that of
a warning if its logger stands below one that is held to warnings; otherwise it is not shown.  Above
the level for those who look for a fault, it is shown as its label and its message as it is, else in
the style with time and place.  A logger stands below another only if its name goes on from the
other's, and always so unless there are two dots side by side in it. -/
theorem records_shown_once (h : d.LeavesLevels) (before : List String)
    (hlast : Level.named? (upperCase last) = some threshold) (logger : String) (k : Int)
    {message m : String} {arguments : List Json} (hm : Message.fill message arguments = .ok m) :
    (threshold.number ≤ k ∧
        ((d.after (before ++ [last])).IsQuiet logger → Level.warning.number ≤ k) →
      ∃ label, Level.IsLabel k label ∧
        (Level.debug.number < threshold.number →
          ((d.after (before ++ [last])).log logger k message arguments).1 =
            .ok (label ++ ": " ++ m ++ "\n")) ∧
        (threshold.number ≤ Level.debug.number →
          ((d.after (before ++ [last])).log logger k message arguments).1 =
            .ok ("HH:MM:SS.mmm | " ++ padLabel 8 label ++ " | CALLER - " ++ m ++ "\n"))) ∧
    (¬(threshold.number ≤ k ∧
        ((d.after (before ++ [last])).IsQuiet logger → Level.warning.number ≤ k)) →
      ((d.after (before ++ [last])).log logger k message arguments).1 = .ok "") ∧
    ((d.after (before ++ [last])).IsQuiet logger →
      ∃ name ∈ quietLoggers, Loggers.GoesOn name logger) ∧
    (¬['.', '.'] <:+: logger.toList →
      ((d.after (before ++ [last])).IsQuiet logger ↔
        ∃ name ∈ quietLoggers, Loggers.GoesOn name logger)) := by
  obtain ⟨hshown, hhidden⟩ := log_after h before hlast logger hm (k := k)
  refine ⟨fun hlevels => ⟨_, Level.isLabel_iff.2 rfl, ?_, ?_⟩, hhidden, ?_,
    isQuiet_after_iff before hlast logger⟩
  · intro hterse
    rw [hshown hlevels, LineStyle.ofLevel, if_neg (Int.not_le.2 hterse)]
    rfl
  · intro hdetailed
    rw [hshown hlevels, LineStyle.ofLevel, if_pos hdetailed, LineStyle.line_detailed]
  · rintro ⟨name, hname, hbelow⟩
    exact ⟨name, hname, hbelow.goesOn⟩

/-- A level without a name is told by its number, and a message with marks is shown as it is. -/
theorem records_shown_once_marked :
    ({} : Diagnostics).LeavesLevels ∧ Level.named? (upperCase "info") = some .info ∧
      Message.fill "<b>%s</b>" [.text "100% \x7bx\x7d"] = .ok "<b>100% \x7bx\x7d</b>" ∧
      ((({} : Diagnostics).after ["debug", "loud", "info"]).log "app" 25 "<b>%s</b>"
        [.text "100% \x7bx\x7d"]).1 = .ok "Level 25: <b>100% \x7bx\x7d</b>\n" := by
  have hleaves : ({} : Diagnostics).LeavesLevels := nofun
  have hlast : Level.named? (upperCase "info") = some .info := by decide
  have hm : Message.fill "<b>%s</b>" [.text "100% \x7bx\x7d"] = .ok "<b>100% \x7bx\x7d</b>" := rfl
  refine ⟨hleaves, hlast, hm, ?_⟩
  obtain ⟨hshown, -, hgoesOn, -⟩ :=
    records_shown_once hleaves ["debug", "loud"] hlast "app" 25 hm
  have hloud : ¬(({} : Diagnostics).after ["debug", "loud", "info"]).IsQuiet "app" := by
    intro hquiet
    have happ : ¬∃ name ∈ quietLoggers, Loggers.GoesOn name "app" := by decide
    exact happ (hgoesOn hquiet)
  obtain ⟨label, hlabel, hterse, -⟩ := hshown ⟨by decide, fun hquiet => absurd hquiet hloud⟩
  have hname : label = "Level 25" := Level.isLabel_iff.1 hlabel
  rw [hname] at hterse
  exact hterse (by decide)

end Diagnostics

end WorkspaceWatch
