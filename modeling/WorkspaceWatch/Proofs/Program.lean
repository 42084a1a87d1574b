/-
**What a run of the program shows.**

Once the command line is read, the settings are loaded and diagnostics are set up, the program runs
one command.  A command makes calls as a session does, and what the program prints, asks and ends
with can be told from the reports of that session, from the lines that the command prints and from
the message it fails with.

Main definitions:

* `WorkspaceWatch.Session.Step.Makes` — a step of a session makes a call;
* `WorkspaceWatch.Action.ofSession` — the action that a session amounts to;
* `WorkspaceWatch.Situation.Reaches` — the words of a command line reach a command;
* `WorkspaceWatch.Situation.Calls` — they call it, with options and arguments that can be used;
* `WorkspaceWatch.ProgramReport.Shows` — a report shows a session, its lines and its message.

Main results:

* `WorkspaceWatch.Session.Step.Makes.call_of_ok`, `WorkspaceWatch.Session.Step.Makes.call_of_error`
  — an action that makes a call is a session with one step more;
* `WorkspaceWatch.Command.run_induction` — what holds of all that a command can do;
* `WorkspaceWatch.Situation.Calls.shows` — **a run shows the session of its command**.
-/

import WorkspaceWatch.CommandLine.Program
import WorkspaceWatch.Proofs.Operation
import WorkspaceWatch.Proofs.RecordsShown
import WorkspaceWatch.Proofs.Remarks
import WorkspaceWatch.Proofs.Rendering
import WorkspaceWatch.Proofs.Terminal

set_option autoImplicit false

namespace WorkspaceWatch

/-! ### Steps of sessions and calls -/

theorem Client.run_map {α β : Type} (c : Client) (call : Call α) (f : α → β)
    (reactions : List Reaction) :
    c.run (call.map f) reactions = ⟨(c.run call reactions).result.map f,
      (c.run call reactions).request?, (c.run call reactions).notes,
      (c.run call reactions).rest⟩ := rfl

/-- A step of a session makes a call, whatever it gives back of the result. -/
def Session.Step.Makes {α : Type} (step : Session.Step) (call : Call α) : Prop :=
  ∃ f : α → Session.Answer, step.call? = some (call.map f)

theorem Session.Step.makes_resolve (path : Option String) :
    (Session.Step.resolve path).Makes (Call.resolve path) :=
  ⟨.status, rfl⟩

theorem Session.Step.makes_createWorkspace (w : WorkspaceCreate) :
    (Session.Step.createWorkspace w).Makes (Call.createWorkspace w) :=
  ⟨.workspace, rfl⟩

theorem Operation.makes_step (op : Operation) : op.step.Makes op.call := by
  -- the call of an operation already gives back the answer of the step
  refine ⟨id, ?_⟩
  have hmap : op.call.map id = op.call := by
    simp only [Call.map, Except.map_id]
    rfl
  rw [hmap, op.call?_step]

theorem Session.clientAfter_of_call? {step : Session.Step} {call : Call Session.Answer}
    (h : step.call? = some call) (c : Client) : clientAfter c step = c := by
  cases step with
  | useBaseUrl url => cases h
  | _ => rfl

/-! ### Actions and sessions -/

/-- The action that a session amounts to, with the lines printed and the message of a failure. -/
def Action.ofSession (reports : List (Report Session.Answer)) (lines : List String)
    (message? : Option String) : Action where
  lines
  requests := reports.flatMap (·.request?.toList)
  remarks := reports.flatMap Session.remarks
  ending := match message? with
    | none => .done
    | some message => .failed message

theorem Action.after_ofSession {α : Type} (r : Report α) (result : Except CallError Session.Answer)
    (reports : List (Report Session.Answer)) (lines : List String) (message? : Option String) :
    after r (ofSession reports lines message?) =
      ofSession (⟨result, r.request?, r.notes, r.rest⟩ :: reports) lines message? := by
  simp [after, ofSession, Session.remarks]

namespace Session.Step.Makes

variable {α : Type} {step : Session.Step} {call : Call α} {c : Client} {reactions : List Reaction}

/-- The report of a step is that of its call, but for what is given back. -/
theorem exists_report_eq (h : step.Makes call) (c : Client) (reactions : List Reaction) :
    ∃ result, Session.report c reactions step = ⟨result, (c.run call reactions).request?,
      (c.run call reactions).notes, (c.run call reactions).rest⟩ := by
  obtain ⟨f, hstep⟩ := h
  simp only [Session.report, hstep, Client.run_map]
  exact ⟨_, rfl⟩

theorem clientAfter_eq (h : step.Makes call) (c : Client) : Session.clientAfter c step = c := by
  obtain ⟨f, hstep⟩ := h
  exact Session.clientAfter_of_call? hstep c

/-- An action that makes a call and goes on is a session with one step more. -/
theorem call_of_ok (h : step.Makes call) {v : α} (hv : (c.run call reactions).result = .ok v)
    {next : α → List Reaction → Action} {steps : List Session.Step} {lines : List String}
    {message? : Option String}
    (hnext : next v (c.run call reactions).rest =
      .ofSession (Session.run c (c.run call reactions).rest steps) lines message?) :
    Action.call c call reactions next =
      .ofSession (Session.run c reactions (step :: steps)) lines message? := by
  obtain ⟨result, hreport⟩ := h.exists_report_eq c reactions
  simp only [Action.call, hv, hnext, Session.run, h.clientAfter_eq, hreport]
  exact Action.after_ofSession _ result _ lines message?

/-- An action that makes a call and goes on asks what the session with one step more does. -/
theorem requests_call_of_ok (h : step.Makes call) {v : α}
    (hv : (c.run call reactions).result = .ok v) {next : α → List Reaction → Action}
    {steps : List Session.Step}
    (hnext : (next v (c.run call reactions).rest).requests =
      (Session.run c (c.run call reactions).rest steps).flatMap (·.request?.toList)) :
    (Action.call c call reactions next).requests =
      (Session.run c reactions (step :: steps)).flatMap (·.request?.toList) := by
  obtain ⟨result, hreport⟩ := h.exists_report_eq c reactions
  simp only [Action.call, Action.after, hv, hnext, Session.run, h.clientAfter_eq, hreport,
    List.flatMap_cons]

/-- An action that asks no more after a call asks what the session of one step does, however the
call ends. -/
theorem requests_call_of_last (h : step.Makes call) {next : α → List Reaction → Action}
    (hnext : ∀ v rest, (next v rest).requests = []) :
    (Action.call c call reactions next).requests =
      (Session.run c reactions [step]).flatMap (·.request?.toList) := by
  obtain ⟨result, hreport⟩ := h.exists_report_eq c reactions
  simp only [Action.call, Action.after, Session.run, hreport, List.flatMap_cons, List.flatMap_nil]
  congr 1
  cases (c.run call reactions).result with
  | ok v => exact hnext v _
  | error e => cases e <;> rfl

/-- An action whose call fails is a session that ends there. -/
theorem call_of_error (h : step.Makes call) {e : ApiError}
    (he : (c.run call reactions).result = .error (.api e)) (next : α → List Reaction → Action) :
    Action.call c call reactions next =
      .ofSession (Session.run c reactions [step]) [] (some e.message) := by
  obtain ⟨result, hreport⟩ := h.exists_report_eq c reactions
  simp only [Action.call, he, Session.run, hreport]
  exact Action.after_ofSession _ result [] [] (some e.message)

end Session.Step.Makes

/-- **What holds of all that a command can do**: it holds of printing and ending, and is kept by a
call made before, by a line printed before, and by repeating checks. -/
theorem Command.run_induction {P : Action → Prop} {c : Client}
    (hend : ∀ lines ending, P { lines, ending })
    (hcall : ∀ {α : Type} (call : Call α) (reactions : List Reaction)
      (next : α → List Reaction → Action), (∀ v rest, P (next v rest)) →
      P (Action.call c call reactions next))
    (hline : ∀ line a, P a → P (a.afterLine line))
    (hloop : ∀ pause a, P a →
      P { a with remarks := loopRemark :: a.remarks, pause? := some pause })
    (command : Command) (directory : String) (reactions : List Reaction) :
    P (command.run c directory reactions) := by
  have hworkspace : ∀ path (next : String → List Reaction → Action),
      (∀ id rest, P (next id rest)) → P (withWorkspace c path reactions next) := by
    intro path next hnext
    refine hcall _ _ _ fun s rest => ?_
    cases s.id? with
    | none => exact hend _ _
    | some id => exact hnext id rest
  have hwatch : ∀ path ending (n : Nat) previous reactions,
      P (watchFrom c path ending n previous reactions) := by
    intro path ending n
    induction n with
    | zero => exact fun _ _ => hend _ _
    | succ n ih =>
        intro previous reactions
        refine hcall _ _ _ fun s rest => ?_
        by_cases hsame : previous = some s
        · simp only [if_pos hsame]
          exact ih _ _
        · simp only [if_neg hsame]
          exact hline _ _ (ih _ _)
  cases command with
  | status path? noProject => exact hcall _ _ _ fun _ _ => hend _ _
  | workspaces =>
      simp only [run]
      refine hcall _ _ _ ?_
      rintro (_ | ws) rest <;> exact hend _ _
  | init path? name? => exact hcall _ _ _ fun _ _ => hend _ _
  | watch path? pause count =>
      simp only [run, watchAll]
      split
      · exact hloop pause _ (hwatch _ _ _ _ _)
      · exact hloop pause _ (hwatch _ _ _ _ _)
  | tasks path? statuses => exact hworkspace _ _ fun _ _ => hcall _ _ _ fun _ _ => hend _ _
  | taskAdd path? request => exact hworkspace _ _ fun _ _ => hcall _ _ _ fun _ _ => hend _ _
  | taskDelete path? taskId => exact hworkspace _ _ fun _ _ => hcall _ _ _ fun _ _ => hend _ _

/-- A request of an action that makes a call and goes on is made by the call or by what follows. -/
theorem Action.mem_requests_call {α : Type} {c : Client} {call : Call α} {reactions : List Reaction}
    {next : α → List Reaction → Action} {request : Request}
    (h : request ∈ (Action.call c call reactions next).requests) :
    request ∈ (c.run call reactions).request? ∨
      ∃ v, request ∈ (next v (c.run call reactions).rest).requests := by
  simp only [Action.call, after, List.mem_append, Option.mem_toList] at h
  refine h.imp id fun h => ?_
  cases hresult : (c.run call reactions).result with
  | ok v =>
      rw [hresult] at h
      exact ⟨v, h⟩
  | error e =>
      rw [hresult] at h
      cases e <;> cases h

/-! ### Records of a command -/

/-- **Records below the level are not shown.** -/
theorem Diagnostics.InForce.remarks_eq_empty {d : Diagnostics} {l : Level} (h : d.InForce l)
    {remarks : List Remark} (hlow : ∀ r ∈ remarks, r.level.number < l.number) :
    d.remarks remarks = "" := by
  -- along the records: each is sent to diagnostics that are still set up for the level
  induction remarks generalizing d with
  | nil => rfl
  | cons r rest ih =>
      have hshown := h.log_of_lt (hlow r List.mem_cons_self) r.logger r.text
      have hlater := ih (h.log r.logger r.level.number r.text [])
        fun r hr => hlow r (List.mem_cons_of_mem _ hr)
      simp only [Diagnostics.remarks, hshown, hlater]
      rfl

/-- Diagnostics as they are set up if nobody says otherwise. -/
def Diagnostics.usual : Diagnostics := (Diagnostics.setup {} ({} : Settings).logLevel).2

theorem Diagnostics.setup_usual : Diagnostics.setup {} "WARNING" = (.ok "", usual) := by
  decide

theorem Diagnostics.inForce_usual : usual.InForce .warning :=
  inForce_setup {} (show Level.named? (upperCase "WARNING") = some .warning by decide)

/-! ### What a report shows -/

/-- A report shows a session: the requests that it made, the lines printed about it, and as errors
what was shown before, the records made, and the message if it failed. -/
structure ProgramReport.Shows (p : ProgramReport) (d : Diagnostics) (onTerminal : Bool)
    (shown : String) (reports : List (Report Session.Answer)) (lines : List String)
    (message? : Option String) : Prop where
  /-- The lines are printed. -/
  out : p.out = "".intercalate (lines.map fun line => printed onTerminal line ++ "\n")
  /-- So are, as errors, the records and the message. -/
  err : p.err = shown ++ (d.remarks (reports.flatMap Session.remarks) ++
    message?.elim "" errorLine)
  /-- The requests are those of the session. -/
  requests : p.requests = reports.flatMap (·.request?.toList)
  /-- The exit code says whether there is a message. -/
  ending : p.ending = .exit (if message?.isSome then 1 else 0)

theorem Action.shows_report (d : Diagnostics) (onTerminal : Bool) (shown : String)
    (reports : List (Report Session.Answer)) (lines : List String) (message? : Option String) :
    (((ofSession reports lines message?).report d onTerminal).afterErr shown).Shows d onTerminal
      shown reports lines message? := by
  cases message? with
  | none => exact ⟨rfl, rfl, rfl, rfl⟩
  | some message => exact ⟨rfl, rfl, rfl, rfl⟩

theorem ProgramReport.afterErr_afterErr (first second : String) (p : ProgramReport) :
    (p.afterErr second).afterErr first = p.afterErr (first ++ second) := by
  simp only [afterErr, String.append_assoc]

namespace Situation

/-- The words of a command line reach a command: the program's own options can be read and do not
ask for help, and the word after them names the command. -/
structure Reaches (words : List String) (g : Given) (verb : Verb) (rest : List String) : Prop where
  /-- The options can be read. -/
  read : Given.ofProgramWords words = .ok g
  /-- They do not ask for help. -/
  noHelp : g.wantsHelp = false
  /-- The next word names the command, and the rest is for the command. -/
  named : ∃ word, g.words = word :: rest ∧ Verb.named? word = some verb

/-- A command that is reached is started. -/
theorem Reaches.run_eq_start {words : List String} {g : Given} {verb : Verb} {rest : List String}
    (h : Reaches words g verb rest) (s : Situation) : s.run words = s.start g verb rest := by
  obtain ⟨word, hcut, hverb⟩ := h.named
  -- no words at all would have no word for a command
  have hempty : words.isEmpty = false := by
    cases words with
    | nil =>
        cases h.read
        cases hcut
    | cons => rfl
  simp only [run, hempty, h.read, h.noHelp, hcut, hverb, Bool.false_eq_true, if_false]

/-- The words of a command line call a command: they can be read, the settings load, and the level
of diagnostics is known.  The command runs with a client and with diagnostics set up; something may
have been shown before. -/
inductive Calls (s : Situation) (words : List String) :
    Client → Diagnostics → String → Command → Prop
  | intro {g given : Given} {word : String} {rest : List String} {verb : Verb}
      {settings : Settings} {out : String} {d : Diagnostics} :
      Given.ofProgramWords words = .ok g → g.wantsHelp = false → g.words = word :: rest →
      Verb.named? word = some verb → Settings.load [] s.surroundings = .ok settings →
      Diagnostics.setup {} (Command.orElse (g.value? "--log-level") settings.logLevel) =
        (.ok out, d) →
      Given.ofWords verb.spec rest = .ok given → given.wantsHelp = false →
      given.check verb.spec = none →
      s.Calls words (s.client g settings) d (s.surroundings.warnings ++ out)
        (Command.ofGiven settings verb given)

variable {s : Situation} {words : List String} {c : Client} {d : Diagnostics} {shown : String}
  {command : Command}

/-- The program runs the command that its words call. -/
theorem Calls.run_eq (h : s.Calls words c d shown command) :
    s.run words = ((command.run c s.directory s.reactions).report d s.onTerminal).afterErr shown := by
  cases h with
  | intro hwords hhelp hcut hverb hsettings hlogging hgiven hplain hcheck =>
      rw [Reaches.run_eq_start ⟨hwords, hhelp, _, hcut, hverb⟩ s]
      simp only [start, hsettings, hlogging, runVerb, hgiven, hplain, hcheck, Bool.false_eq_true,
        if_false, ProgramReport.afterErr_afterErr]

theorem Calls.requests_eq (h : s.Calls words c d shown command) :
    (s.run words).requests = (command.run c s.directory s.reactions).requests := by
  rw [h.run_eq]
  rfl

/-- **A run shows the session of its command.** -/
theorem Calls.shows (h : s.Calls words c d shown command) {steps : List Session.Step}
    {lines : List String} {message? : Option String}
    (hcommand : command.run c s.directory s.reactions =
      .ofSession (Session.run c s.reactions steps) lines message?) :
    (s.run words).Shows d s.onTerminal shown (Session.run c s.reactions steps) lines message? := by
  rw [h.run_eq, hcommand]
  exact Action.shows_report d s.onTerminal shown _ lines message?

end Situation

end WorkspaceWatch
