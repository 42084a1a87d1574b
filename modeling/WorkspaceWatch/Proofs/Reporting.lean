/-
**Commands that report on the daemon.**

Three commands report what the daemon says, each in a way of its own: one shows the status of a
project and does not fail, one lists the workspaces and fails without a list, and one lists tasks and
fails without a workspace.  Given the same reaction of the daemon, they do not contradict each other,
unless it is a mishap.

Main definitions:

* `WorkspaceWatch.Status.shown` — the status that is read off what is printed;
* `WorkspaceWatch.statusPath` — the project whose status is asked for;
* `WorkspaceWatch.CommandRun` — a run of the program for a command, with a client and the daemon's
  next reaction.

Main results:

* `WorkspaceWatch.Situation.Calls.shows_status_of_resolves` — a status is always shown, whatever it is;
* `WorkspaceWatch.CommandRun.shows_workspaces_of_lists` and its neighbour — workspaces are shown
  exactly if there is a list;
* `WorkspaceWatch.CommandRun.reports_agree` — **the reports on one reaction agree**;
* `WorkspaceWatch.Situation.status_of_red_workspace` — an identifier loses its escape sequences where
  it is not printed on a terminal.
-/

import WorkspaceWatch.Proofs.TaskCommand

set_option autoImplicit false

namespace WorkspaceWatch

/-! ### Showing a status -/

/-- The status that is read off what is printed: off a terminal, an identifier loses its escape
sequences. -/
def Status.shown (onTerminal : Bool) : Status → Status
  | found id => found (printed onTerminal id)
  | s => s

theorem Status.printed_text (onTerminal : Bool) (s : Status) :
    printed onTerminal s.text = (s.shown onTerminal).text := by
  cases s with
  | unavailable => exact printed_of_notMem (by decide) onTerminal
  | found id => exact printed_append (by decide) onTerminal id
  | noWorkspace => exact printed_of_notMem (by decide) onTerminal

theorem Status.shown_eq_unavailable_iff (onTerminal : Bool) (s : Status) :
    s.shown onTerminal = unavailable ↔ s = unavailable := by
  cases s <;> simp [shown]

theorem Status.shown_eq_found_iff (onTerminal : Bool) (s : Status) (text : String) :
    s.shown onTerminal = found text ↔ ∃ id, s = found id ∧ printed onTerminal id = text := by
  cases s <;> simp [shown]

/-- The project whose status is asked for, if it is asked for any. -/
def statusPath (directory : String) (path? : Option String) (noProject : Bool) : Option String :=
  if noProject then none else some (projectPath directory path?)

theorem Session.Step.makes_fetch : Session.Step.fetch.Makes Call.fetch :=
  ⟨.listing, rfl⟩

theorem Command.run_status {c : Client} {directory : String} {path? : Option String}
    {noProject : Bool} {reaction : Reaction} {status : Status}
    (h : c.Resolves (statusPath directory path? noProject) reaction status) (rest : List Reaction) :
    (Command.status path? noProject).run c directory (reaction :: rest) =
      .ofSession (Session.run c (reaction :: rest)
        [.resolve (statusPath directory path? noProject)]) [status.text] none := by
  have hcommand : (Command.status path? noProject).run c directory (reaction :: rest) =
      Action.call c (Call.resolve (statusPath directory path? noProject)) (reaction :: rest)
        fun s _ => { lines := [s.text] } := rfl
  rw [hcommand]
  exact (Session.Step.makes_resolve _).call_of_ok (h rest) rfl

theorem Command.run_workspaces (c : Client) (directory : String) (reactions : List Reaction) :
    Command.workspaces.run c directory reactions =
      Action.call c Call.fetch reactions fun
        | some ws, _ => { lines := ws.map Command.workspaceLine }
        | none, _ => { ending := .failed Status.unavailable.text } := rfl

/-- **A status is always shown**, whatever it is. -/
theorem Situation.Calls.shows_status_of_resolves {s : Situation} {words : List String} {c : Client}
    {d : Diagnostics} {shown : String} {path? : Option String} {noProject : Bool}
    (h : s.Calls words c d shown (.status path? noProject)) {reaction : Reaction}
    {rest : List Reaction} (hreactions : s.reactions = reaction :: rest) {status : Status}
    (hstatus : c.Resolves (statusPath s.directory path? noProject) reaction status) :
    (s.run words).Shows d s.onTerminal shown
      (Session.run c s.reactions [.resolve (statusPath s.directory path? noProject)])
      [status.text] none := by
  refine h.shows ?_
  rw [hreactions]
  exact Command.run_status hstatus rest

/-- A report that shows a status is told from what can be read off it. -/
theorem ProgramReport.Shows.out_eq_iff {p : ProgramReport} {d : Diagnostics} {onTerminal : Bool}
    {shown : String} {reports : List (Report Session.Answer)} {message? : Option String}
    {status : Status} (h : p.Shows d onTerminal shown reports [status.text] message?)
    (other : Status) : p.out = other.text ++ "\n" ↔ status.shown onTerminal = other := by
  rw [h.out, List.map_cons, List.map_nil, String.intercalate_singleton, String.append_left_inj,
    Status.printed_text, Status.text_injective.eq_iff]

/-! ### Runs on one reaction -/

/-- A run of the program in a directory that calls a command with a client, when the daemon's next
reaction is the given one. -/
structure CommandRun (c : Client) (directory : String) (reaction : Reaction) (command : Command) where
  /-- What the program finds. -/
  situation : Situation
  /-- The words of the command line. -/
  words : List String
  /-- The diagnostics that are set up. -/
  diagnostics : Diagnostics
  /-- What was shown before. -/
  shown : String
  /-- The reactions after the next one. -/
  rest : List Reaction
  calls : situation.Calls words c diagnostics shown command
  directory_eq : situation.directory = directory
  reactions_eq : situation.reactions = reaction :: rest

namespace CommandRun

variable {c : Client} {directory : String} {reaction : Reaction} {command : Command}

/-- The report on a run. -/
def report (r : CommandRun c directory reaction command) : ProgramReport :=
  r.situation.run r.words

/-- A run shows the session that has the given steps. -/
def Shows (r : CommandRun c directory reaction command) (steps : List Session.Step)
    (lines : List String) (message? : Option String) : Prop :=
  r.report.Shows r.diagnostics r.situation.onTerminal r.shown
    (Session.run c (reaction :: r.rest) steps) lines message?

theorem shows_of_run_eq (r : CommandRun c directory reaction command) {steps : List Session.Step}
    {lines : List String} {message? : Option String}
    (h : command.run c directory (reaction :: r.rest) =
      .ofSession (Session.run c (reaction :: r.rest) steps) lines message?) :
    r.Shows steps lines message? := by
  have hcommand : command.run c r.situation.directory r.situation.reactions =
      .ofSession (Session.run c r.situation.reactions steps) lines message? := by
    rw [r.directory_eq, r.reactions_eq]
    exact h
  have hshows := r.calls.shows hcommand
  rw [r.reactions_eq] at hshows
  exact hshows

theorem Shows.ending_eq_exit_one_iff {r : CommandRun c directory reaction command}
    {steps : List Session.Step} {lines : List String} {message? : Option String}
    (h : r.Shows steps lines message?) : r.report.ending = .exit 1 ↔ message?.isSome = true := by
  rw [h.ending]
  cases message? <;> simp

variable {path? : Option String} {noProject : Bool} {states : List String}

theorem shows_status (r : CommandRun c directory reaction (.status path? noProject))
    {status : Status} (h : c.Resolves (statusPath directory path? noProject) reaction status) :
    r.Shows [.resolve (statusPath directory path? noProject)] [status.text] none :=
  r.shows_of_run_eq (Command.run_status h r.rest)

/-- The workspaces are shown if there is a list of them. -/
theorem shows_workspaces_of_lists (r : CommandRun c directory reaction .workspaces)
    {ws : List Workspace} (h : c.Lists reaction ws) :
    r.Shows [.fetch] (ws.map Command.workspaceLine) none := by
  refine r.shows_of_run_eq ?_
  rw [Command.run_workspaces]
  exact Session.Step.makes_fetch.call_of_ok (h.fetch r.rest) rfl

/-- Otherwise the command fails, with the text of the status. -/
theorem shows_workspaces_of_listsNothing (r : CommandRun c directory reaction .workspaces)
    (h : c.ListsNothing reaction) : r.Shows [.fetch] [] (some Status.unavailable.text) := by
  refine r.shows_of_run_eq ?_
  rw [Command.run_workspaces]
  exact Session.Step.makes_fetch.call_of_ok (h.fetch r.rest) rfl

/-- Without a list, so does every command about tasks. -/
theorem shows_taskCommand_of_listsNothing {t : TaskCommand}
    (r : CommandRun c directory reaction (t.command path?)) (h : c.ListsNothing reaction) :
    r.Shows [.resolve (some (projectPath directory path?))] [] (some Status.unavailable.text) := by
  refine r.shows_of_run_eq ?_
  rw [t.run_command]
  exact Command.withWorkspace_of_none (h.resolve _ r.rest) rfl _

/-- **The reports on one reaction agree**, unless it is a mishap. A status is always shown. It says
that the daemon is not to be had exactly if the workspaces cannot be listed, and then they and the
tasks fail with the same text, and no workspace is shown. Otherwise the workspaces of the list are
shown in its order, and the status names the first one bound to the project's directory, as it is
printed, if there is one; without a project it says that there is no workspace. -/
theorem reports_agree {other? : Option String} (hcalm : ∀ m, ¬c.Astray reaction m)
    (status : CommandRun c directory reaction (.status path? noProject))
    (listing : CommandRun c directory reaction .workspaces)
    (tasks : CommandRun c directory reaction (.tasks other? states)) :
    (∃ s text, Status.render (fun _ => none) s = .ok text ∧
      status.Shows [.resolve (statusPath directory path? noProject)] [text] none) ∧
    ∃ unavailable, Status.unavailable.render (fun _ => none) = .ok unavailable ∧
      (status.report.out = unavailable ++ "\n" ↔ listing.report.ending = .exit 1) ∧
      (listing.report.ending = .exit 1 →
        listing.Shows [.fetch] [] (some unavailable) ∧
        tasks.Shows [.resolve (some (projectPath directory other?))] [] (some unavailable)) ∧
      (listing.report.ending ≠ .exit 1 → ∃ ws, c.Lists reaction ws ∧
        listing.Shows [.fetch] (ws.map Command.workspaceLine) none ∧
        (noProject = false → ∀ text, status.report.out = "Found workspace " ++ text ++ "\n" ↔
          ∃ id, IsFirstBound ws (projectPath directory path?) id ∧
            printed status.situation.onTerminal id = text) ∧
        (noProject = true → ∃ text, Status.noWorkspace.render (fun _ => none) = .ok text ∧
          status.report.out = text ++ "\n")) := by
  rcases c.lists_or_listsNothing_or_astray reaction with ⟨ws, hws⟩ | hnone | ⟨m, hm⟩
  · have hstatus := status.shows_status (hws.resolves _)
    have hlisting := listing.shows_workspaces_of_lists hws
    have hends : ¬listing.report.ending = .exit 1 := by
      rw [hlisting.ending_eq_exit_one_iff]
      exact Bool.false_ne_true
    refine ⟨⟨_, _, Status.render_default _, hstatus⟩, _, Status.render_default _, ?_,
      fun h => absurd h hends, fun _ => ⟨ws, hws, hlisting, ?_, ?_⟩⟩
    · rw [hstatus.out_eq_iff, Status.shown_eq_unavailable_iff]
      exact iff_of_false (Status.ofListing_ne_unavailable _ ws) hends
    · rintro rfl text
      have hfound := hstatus.out_eq_iff (.found text)
      rw [Status.shown_eq_found_iff] at hfound
      refine hfound.trans (exists_congr fun id => and_congr_left fun _ => ?_)
      rw [Status.ofListing_eq_found_iff]
      exact ⟨fun ⟨d, hd, hid⟩ => Option.some.inj hd ▸ hid, fun hid => ⟨_, rfl, hid⟩⟩
    · rintro rfl
      exact ⟨_, Status.render_default _, (hstatus.out_eq_iff .noWorkspace).2 rfl⟩
  · have hstatus := status.shows_status (hnone.resolves _)
    have hlisting := listing.shows_workspaces_of_listsNothing hnone
    have htasks := shows_taskCommand_of_listsNothing (t := .list states) tasks hnone
    have hends : listing.report.ending = .exit 1 := hlisting.ending_eq_exit_one_iff.2 rfl
    refine ⟨⟨_, _, Status.render_default _, hstatus⟩, _, Status.render_default _, ?_,
      fun _ => ⟨hlisting, htasks⟩, fun h => absurd hends h⟩
    rw [hstatus.out_eq_iff, Status.shown_eq_unavailable_iff]
    exact iff_of_true rfl hends
  · exact absurd hm (hcalm m)

end CommandRun

namespace Situation

/-- The status of the project is asked for. -/
theorem calls_status (id : String) (answer : Response) :
    (listing id answer).Calls ["status"] {} .usual "" (.status none false) :=
  @Calls.intro _ _ ⟨[], ["status"]⟩ ⟨[], []⟩ "status" [] .status {} "" _
    rfl rfl rfl rfl rfl Diagnostics.setup_usual rfl rfl rfl

end Situation

/-- A daemon that lists one workspace is reported on alike. -/
theorem CommandRun.reports_agree_obliging :
    (∀ m, ¬({} : Client).Astray (.respond (.ofJson 200 (oneWorkspace "w1"))) m) ∧
      ((Situation.listing "w1" ⟨204, [], .empty⟩).run ["status"]).out = "Found workspace w1\n" ∧
      ((Situation.listing "w1" ⟨204, [], .empty⟩).run ["workspaces"]).ending ≠ .exit 1 ∧
      ((Situation.listing "w1" ⟨204, [], .empty⟩).run ["workspaces"]).out = "w1\t\t/p\n" := by
  have hws := lists_oneWorkspace "w1"
  have hstatus := Situation.calls_status "w1" ⟨204, [], .empty⟩
  have hlisting : (Situation.listing "w1" ⟨204, [], .empty⟩).Calls ["workspaces"] {} .usual ""
      .workspaces :=
    @Situation.Calls.intro _ _ ⟨[], ["workspaces"]⟩ ⟨[], []⟩ "workspaces" [] .workspaces {} "" _
      rfl rfl rfl rfl rfl Diagnostics.setup_usual rfl rfl rfl
  have htasks : (Situation.listing "w1" ⟨204, [], .empty⟩).Calls ["tasks"] {} .usual ""
      (.tasks none []) :=
    @Situation.Calls.intro _ _ ⟨[], ["tasks"]⟩ ⟨[], []⟩ "tasks" [] .tasks {} "" _
      rfl rfl rfl rfl rfl Diagnostics.setup_usual rfl rfl rfl
  obtain ⟨-, text, htext, hout, -, havailable⟩ := reports_agree hws.not_astray
    ⟨_, ["status"], _, _, _, hstatus, rfl, rfl⟩ ⟨_, ["workspaces"], _, _, _, hlisting, rfl, rfl⟩
    ⟨_, ["tasks"], _, _, _, htasks, rfl, rfl⟩
  have hends :
      ((Situation.listing "w1" ⟨204, [], .empty⟩).run ["workspaces"]).ending ≠ .exit 1 := by
    have hshows := shows_workspaces_of_lists ⟨_, ["workspaces"], _, _, _, hlisting, rfl, rfl⟩ hws
    intro hexit
    cases hshows.ending_eq_exit_one_iff.1 hexit
  obtain ⟨ws, hws', hshows, hfound, -⟩ := havailable hends
  obtain rfl := hws.unique hws'
  have hprinted := printed_of_notMem (show escapeChar ∉ "w1".toList by decide) false
  exact ⟨hws.not_astray, (hfound rfl "w1").2 ⟨"w1", isFirstBound_oneWorkspace "w1", hprinted⟩,
    hends, hshows.out⟩

/-- An identifier loses its escape sequences where it is not printed on a terminal: what is printed
may be the identifier of no workspace. -/
theorem Situation.status_of_red_workspace :
    ({} : Client).Lists (.respond (.ofJson 200 (oneWorkspace "w\x1b[31m")))
        [⟨"w\x1b[31m", none, some "/p", none, none⟩] ∧
      ¬IsFirstBound [⟨"w\x1b[31m", none, some "/p", none, none⟩] "/p" "w" ∧
      ((listing "w\x1b[31m" ⟨204, [], .empty⟩).run ["status"]).out = "Found workspace w\n" := by
  have hws := lists_oneWorkspace "w\x1b[31m"
  have hid := isFirstBound_oneWorkspace "w\x1b[31m"
  have hresolves := hws.resolves (some "/p")
  rw [(Status.ofListing_eq_found_iff _ _ _).2 ⟨_, rfl, hid⟩] at hresolves
  have hshows := (calls_status "w\x1b[31m" ⟨204, [], .empty⟩).shows_status_of_resolves rfl
    hresolves
  refine ⟨hws, ?_, (hshows.out_eq_iff (.found "w")).2 (by decide)⟩
  intro hw
  exact absurd (hw.unique hid) (by decide)

end WorkspaceWatch
