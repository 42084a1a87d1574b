/-
**Commands about the tasks of a project.**

The three commands about tasks go the same way.  They ask once for the list of workspaces, and only
if a workspace in it is bound to the project's directory do they ask a second time, about the first
such workspace.  Unless a call ends in a mishap, what follows depends on both reactions of the daemon:
there is no second request without a workspace, no success without the value of the second call, and
no line of success beside a message of failure.

Main definitions:

* `WorkspaceWatch.TaskCommand` — the commands, with the operation and the lines of each;
* `WorkspaceWatch.Course`, `WorkspaceWatch.TaskCommand.Takes` — what a command does, by the daemon's
  two reactions;
* `WorkspaceWatch.TaskCommand.Undisturbed` — no call of a command ends in a mishap.

Main results:

* `WorkspaceWatch.TaskCommand.exists_takes`, `WorkspaceWatch.TaskCommand.Takes.unique` — a command
  without a mishap takes a course, and no other;
* `WorkspaceWatch.TaskCommand.Takes.run_command` — running it amounts to the session of that course;
* `WorkspaceWatch.Situation.taskCommand_takes` — **a run of the program without a mishap takes exactly
  one course, and shows it**;
* `WorkspaceWatch.Situation.taskCommand_refused_in_red` — a reason loses its escape sequences where
  it is not printed on a terminal.
-/

import WorkspaceWatch.Proofs.Program
import WorkspaceWatch.Proofs.Resolution
import WorkspaceWatch.Proofs.Written

set_option autoImplicit false

namespace WorkspaceWatch

/-! ### The commands -/

/-- The commands about the tasks of a project: list them, perhaps only those in some states, create
a task, or remove one. -/
inductive TaskCommand where
  | list (statuses : List String)
  | add (request : TaskRequest)
  | remove (taskId : String)

/-- What a command does: the calls it makes, the lines it prints, and the message if it fails. -/
structure Course where
  /-- The calls, in order. -/
  steps : List Session.Step
  /-- The lines printed. -/
  lines : List String
  /-- The message of a failure. -/
  message? : Option String

namespace TaskCommand

/-- The command for a project. -/
def command (path? : Option String) : TaskCommand → Command
  | list statuses => .tasks path? statuses
  | add request => .taskAdd path? request
  | remove taskId => .taskDelete path? taskId

/-- What is asked of the daemon about a workspace. -/
def operation (workspaceId : String) : TaskCommand → Operation
  | list statuses => .listTasks workspaceId statuses
  | add request => .createTask workspaceId request
  | remove taskId => .deleteTask workspaceId taskId

/-- The lines printed about what comes back. -/
def lines : TaskCommand → Session.Answer → List String
  | list _, .tasks ts => ts.map Command.taskLine
  | add _, .task t => ["Created task " ++ t.id]
  | remove taskId, .nothing => ["Deleted task " ++ taskId]
  | _, _ => []

/-- The course of a command about a directory, when the daemon's reactions are the given ones.  The
list of workspaces is asked for in order to resolve the status of the directory.  Either there is no
list, or no workspace in it is bound to the directory, or the operation on the first one that is has
its value, or fails. -/
inductive Takes (t : TaskCommand) (c : Client) (directory : String) (first second : Reaction) :
    Course → Prop
  | unavailable {message : String} : c.ListsNothing first →
      Status.unavailable.render (fun _ => none) = .ok message →
      t.Takes c directory first second ⟨[.resolve (some directory)], [], some message⟩
  | unbound {ws : List Workspace} {message : String} : c.Lists first ws →
      (∀ w ∈ ws, w.directory ≠ some directory) →
      Status.noWorkspace.render (fun _ => none) = .ok message →
      t.Takes c directory first second ⟨[.resolve (some directory)], [], some message⟩
  | answered {ws : List Workspace} {id : String} {answer : Session.Answer} : c.Lists first ws →
      IsFirstBound ws directory id → (t.operation id).Ends c second (.answered answer) →
      t.Takes c directory first second
        ⟨[.resolve (some directory), (t.operation id).step], t.lines answer, none⟩
  | failed {ws : List Workspace} {id : String} {ending : Ending} {status? : Option Nat}
      {message : String} : c.Lists first ws → IsFirstBound ws directory id →
      (t.operation id).Ends c second ending → ending.seen = .error (status?, message) →
      t.Takes c directory first second
        ⟨[.resolve (some directory), (t.operation id).step], [], some message⟩

/-- No call of a command about a directory ends in a mishap. -/
structure Undisturbed (t : TaskCommand) (c : Client) (directory : String)
    (first second : Reaction) : Prop where
  /-- Asking for the workspaces does not. -/
  asking : ∀ m, ¬c.Astray first m
  /-- Nor does the operation on the first workspace bound to the directory. -/
  operating : ∀ ws id, c.Lists first ws → IsFirstBound ws directory id →
    ∀ m, ¬c.Escapes (t.operation id).call.order second m

variable {t : TaskCommand} {c : Client} {directory : String} {first second : Reaction}
  {course : Course}

/-! ### The course of a command -/

/-- **A command takes a course**, whatever the daemon does, if it ends in no mishap. -/
theorem exists_takes (h : t.Undisturbed c directory first second) :
    ∃ course, t.Takes c directory first second course := by
  rcases Client.listsNothing_or_unbound_or_bound h.asking directory with
    hnone | ⟨ws, hws, hunbound⟩ | ⟨ws, id, hws, hid⟩
  · exact ⟨_, .unavailable hnone (Status.render_default _)⟩
  · exact ⟨_, .unbound hws hunbound (Status.render_default _)⟩
  · obtain ⟨ending, hending⟩ := Operation.exists_ends (h.operating ws id hws hid)
    cases hseen : ending.seen with
    | error seen =>
        obtain ⟨status?, message⟩ := seen
        exact ⟨_, .failed hws hid hending hseen⟩
    | ok answer =>
        cases ending with
        | answered answer => exact ⟨_, .answered hws hid hending⟩
        | _ => cases hseen

/-- A command whose second call has an end is not disturbed. -/
theorem undisturbed_of_ends {ws : List Workspace} {id : String} {ending : Ending}
    (hws : c.Lists first ws) (hid : IsFirstBound ws directory id)
    (hending : (t.operation id).Ends c second ending) : t.Undisturbed c directory first second where
  asking := hws.not_astray
  operating := by
    intro ws' id' hws' hid'
    rw [hws.isFirstBound_unique hws' hid hid']
    exact hending.not_escapes

/-- A command that takes a course has no list of workspaces, has one without a workspace bound to
the directory, or comes to the end of the operation on the first such workspace. -/
theorem Takes.listsNothing_or_unbound_or_ends (h : t.Takes c directory first second course) :
    c.ListsNothing first ∨
      (∃ ws, c.Lists first ws ∧ ∀ w ∈ ws, w.directory ≠ some directory) ∨
      ∃ ws id ending, c.Lists first ws ∧ IsFirstBound ws directory id ∧
        (t.operation id).Ends c second ending := by
  cases h with
  | unavailable hnone => exact .inl hnone
  | unbound hws hunbound => exact .inr (.inl ⟨_, hws, hunbound⟩)
  | answered hws hid hending => exact .inr (.inr ⟨_, _, _, hws, hid, hending⟩)
  | failed hws hid hending => exact .inr (.inr ⟨_, _, _, hws, hid, hending⟩)

/-- Without a list of workspaces, a command has one course. -/
theorem Takes.eq_of_listsNothing (h : t.Takes c directory first second course)
    (hnone : c.ListsNothing first) :
    course = ⟨[.resolve (some directory)], [], some Status.unavailable.text⟩ := by
  cases h with
  | unavailable _ hmessage =>
      rw [Status.render_default] at hmessage
      rw [Except.ok.inj hmessage]
  | unbound hws => exact absurd hnone hws.not_listsNothing
  | answered hws => exact absurd hnone hws.not_listsNothing
  | failed hws => exact absurd hnone hws.not_listsNothing

/-- Without a workspace bound to the directory, a command has one course. -/
theorem Takes.eq_of_unbound (h : t.Takes c directory first second course) {ws : List Workspace}
    (hws : c.Lists first ws) (hunbound : ∀ w ∈ ws, w.directory ≠ some directory) :
    course = ⟨[.resolve (some directory)], [], some Status.noWorkspace.text⟩ := by
  cases h with
  | unavailable hnone => exact absurd hnone hws.not_listsNothing
  | unbound _ _ hmessage =>
      rw [Status.render_default] at hmessage
      rw [Except.ok.inj hmessage]
  | answered hws' hid => exact absurd hid (hws.not_isFirstBound hws' hunbound _)
  | failed hws' hid => exact absurd hid (hws.not_isFirstBound hws' hunbound _)

/-- The lines and the message that follow from an end of an operation. -/
def outcome (t : TaskCommand) (ending : Ending) : List String × Option String :=
  match ending.seen with
  | .ok answer => (t.lines answer, none)
  | .error (_, message) => ([], some message)

/-- **With a workspace bound to the directory, a command has one course**: it asks about the first
one, and what it shows follows from the end of that. -/
theorem Takes.eq_of_isFirstBound (h : t.Takes c directory first second course) {ws : List Workspace}
    {id : String} {ending : Ending} (hws : c.Lists first ws) (hid : IsFirstBound ws directory id)
    (hending : (t.operation id).Ends c second ending) :
    course = ⟨[.resolve (some directory), (t.operation id).step], (t.outcome ending).1,
      (t.outcome ending).2⟩ := by
  cases h with
  | unavailable hnone => exact absurd hnone hws.not_listsNothing
  | unbound hws' hunbound => exact absurd hid (hws'.not_isFirstBound hws hunbound id)
  | answered hws' hid' hending' =>
      obtain rfl := hws'.isFirstBound_unique hws hid' hid
      rw [hending'.unique hending]
      rfl
  | failed hws' hid' hending' hseen =>
      obtain rfl := hws'.isFirstBound_unique hws hid' hid
      rw [hending'.unique hending, outcome, hseen]

/-- **A command takes one course only.** -/
theorem Takes.unique (h : t.Takes c directory first second course) {other : Course}
    (h' : t.Takes c directory first second other) : other = course := by
  rcases h.listsNothing_or_unbound_or_ends with
    hnone | ⟨ws, hws, hunbound⟩ | ⟨ws, id, ending, hws, hid, hending⟩
  · exact (h'.eq_of_listsNothing hnone).trans (h.eq_of_listsNothing hnone).symm
  · exact (h'.eq_of_unbound hws hunbound).trans (h.eq_of_unbound hws hunbound).symm
  · -- both courses follow from the one end of the operation
    exact (h'.eq_of_isFirstBound hws hid hending).trans
      (h.eq_of_isFirstBound hws hid hending).symm

end TaskCommand

/-! ### The run of a command -/

section Run

variable {c : Client} {path : String} {reactions : List Reaction}

theorem Action.call_map {α β : Type} (c : Client) (call : Call α) (f : α → β)
    (reactions : List Reaction) (next : β → List Reaction → Action) :
    Action.call c (call.map f) reactions next =
      Action.call c call reactions fun v rest => next (f v) rest := by
  simp only [Action.call, Client.run_map]
  cases (c.run call reactions).result with
  | ok v => rfl
  | error e => cases e <;> rfl

/-- Without an identifier, a command ends with the status of its project as its message. -/
theorem Command.withWorkspace_of_none {s : Status}
    (hs : (c.run (Call.resolve (some path)) reactions).result = .ok s) (hid : s.id? = none)
    (next : String → List Reaction → Action) :
    Command.withWorkspace c path reactions next =
      .ofSession (Session.run c reactions [.resolve (some path)]) [] (some s.text) := by
  refine (Session.Step.makes_resolve (some path)).call_of_ok hs ?_
  rw [hid]
  rfl

/-- With an identifier, a command goes on. -/
theorem Command.withWorkspace_of_found {id : String}
    (hs : (c.run (Call.resolve (some path)) reactions).result = .ok (.found id))
    {next : String → List Reaction → Action} {steps : List Session.Step} {lines : List String}
    {message? : Option String}
    (hnext : next id (c.run (Call.resolve (some path)) reactions).rest = .ofSession
      (Session.run c (c.run (Call.resolve (some path)) reactions).rest steps) lines message?) :
    Command.withWorkspace c path reactions next =
      .ofSession (Session.run c reactions (.resolve (some path) :: steps)) lines message? :=
  (Session.Step.makes_resolve (some path)).call_of_ok hs hnext

end Run

namespace TaskCommand

variable {t : TaskCommand} {c : Client} {directory : String} {first second : Reaction}
  {course : Course}

/-- All commands about tasks go the same way. -/
theorem run_command (t : TaskCommand) (path? : Option String) (c : Client) (directory : String)
    (reactions : List Reaction) :
    (t.command path?).run c directory reactions =
      Command.withWorkspace c (projectPath directory path?) reactions fun id rest =>
        Action.call c (t.operation id).call rest fun answer _ => { lines := t.lines answer } := by
  cases t <;> simp only [command, operation, Operation.call, Command.run, Action.call_map, lines]

/-- The second call of a command is the last one. -/
theorem call_eq_ofSession (t : TaskCommand) {id : String} {ending : Ending}
    (h : (t.operation id).Ends c second ending) (rest : List Reaction) :
    (Action.call c (t.operation id).call (second :: rest) fun answer _ =>
        { lines := t.lines answer }) =
      .ofSession (Session.run c (second :: rest) [(t.operation id).step]) (t.outcome ending).1
        (t.outcome ending).2 := by
  have hseen := h.seen?_report rest
  rw [Operation.report_step] at hseen
  -- the end says which result the call has, but for a mishap and a daemon without reactions
  cases hresult : (c.run (t.operation id).call (second :: rest)).result with
  | ok answer =>
      rw [hresult] at hseen
      rw [outcome, ← Option.some.inj hseen]
      exact (t.operation id).makes_step.call_of_ok hresult rfl
  | error e =>
      cases e with
      | api e =>
          rw [hresult] at hseen
          rw [outcome, ← Option.some.inj hseen]
          exact (t.operation id).makes_step.call_of_error hresult _
      | escaped m =>
          rw [hresult] at hseen
          cases hseen
      | exhausted =>
          rw [hresult] at hseen
          cases hseen

/-- **Running a command amounts to the session of its course.** -/
theorem Takes.run_command {path? : Option String}
    (h : t.Takes c (projectPath directory path?) first second course) (rest : List Reaction) :
    (t.command path?).run c directory (first :: second :: rest) =
      .ofSession (Session.run c (first :: second :: rest) course.steps) course.lines
        course.message? := by
  rw [t.run_command path?]
  rcases h.listsNothing_or_unbound_or_ends with
    hnone | ⟨ws, hws, hunbound⟩ | ⟨ws, id, ending, hws, hid, hending⟩
  · rw [h.eq_of_listsNothing hnone]
    exact Command.withWorkspace_of_none (hnone.resolve _ _) rfl _
  · have hresolve := hws.resolve (some (projectPath directory path?)) (second :: rest)
    rw [(Status.ofListing_eq_noWorkspace_iff _ ws).2 ?_] at hresolve
    · rw [h.eq_of_unbound hws hunbound]
      exact Command.withWorkspace_of_none hresolve rfl _
    · rintro d ⟨⟩
      exact hunbound
  · have hresolve := hws.resolve (some (projectPath directory path?)) (second :: rest)
    rw [(Status.ofListing_eq_found_iff _ ws id).2 ⟨_, rfl, hid⟩] at hresolve
    rw [h.eq_of_isFirstBound hws hid hending]
    refine Command.withWorkspace_of_found hresolve ?_
    rw [hws.resolve_rest]
    exact t.call_eq_ofSession hending rest

/-- **With a workspace bound to the directory, a command makes its second call about the first
one**, however that call ends. -/
theorem requests_run_of_isFirstBound (t : TaskCommand) {path? : Option String}
    {ws : List Workspace} {id : String} (hws : c.Lists first ws)
    (hid : IsFirstBound ws (projectPath directory path?) id) (rest : List Reaction) :
    ((t.command path?).run c directory (first :: rest)).requests =
      (Session.run c (first :: rest) [.resolve (some (projectPath directory path?)),
        (t.operation id).step]).flatMap (·.request?.toList) := by
  have hresolve := hws.resolve (some (projectPath directory path?)) rest
  rw [(Status.ofListing_eq_found_iff _ ws id).2 ⟨_, rfl, hid⟩] at hresolve
  rw [t.run_command path?]
  exact (Session.Step.makes_resolve _).requests_call_of_ok hresolve
    ((t.operation id).makes_step.requests_call_of_last fun _ _ => rfl)

/-! ### What follows for the calls and the exit code -/

theorem step_operation_inj {id id' : String} (h : (t.operation id).step = (t.operation id').step) :
    id = id' := by
  cases t <;> cases h <;> rfl

/-- **A second call is made exactly for the first workspace bound to the directory.** -/
theorem Takes.steps_eq_iff (h : t.Takes c directory first second course) (id : String) :
    course.steps = [.resolve (some directory), (t.operation id).step] ↔
      ∃ ws, c.Lists first ws ∧ IsFirstBound ws directory id := by
  constructor
  · intro hsteps
    cases h with
    | unavailable => cases hsteps
    | unbound => cases hsteps
    | answered hws hid =>
        obtain rfl := step_operation_inj (List.cons.inj (List.cons.inj hsteps).2).1
        exact ⟨_, hws, hid⟩
    | failed hws hid =>
        obtain rfl := step_operation_inj (List.cons.inj (List.cons.inj hsteps).2).1
        exact ⟨_, hws, hid⟩
  · rintro ⟨ws, hws, hid⟩
    rcases h.listsNothing_or_unbound_or_ends with
      hnone | ⟨ws', hws', hunbound⟩ | ⟨ws', id', ending, hws', hid', hending⟩
    · exact absurd hnone hws.not_listsNothing
    · exact absurd hid (hws'.not_isFirstBound hws hunbound id)
    · obtain rfl := hws'.isFirstBound_unique hws hid' hid
      rw [h.eq_of_isFirstBound hws hid hending]

/-- **A command fails without a second call**, unless a workspace is bound to the directory. -/
theorem Takes.steps_of_unbound (h : t.Takes c directory first second course)
    (hunbound : ∀ ws, c.Lists first ws → ∀ w ∈ ws, w.directory ≠ some directory) :
    course.steps = [.resolve (some directory)] ∧ course.message?.isSome = true := by
  cases h with
  | unavailable => exact ⟨rfl, rfl⟩
  | unbound => exact ⟨rfl, rfl⟩
  | answered hws hid => exact absurd hid (hws.not_isFirstBound hws (hunbound _ hws) _)
  | failed hws hid => exact absurd hid (hws.not_isFirstBound hws (hunbound _ hws) _)

/-- **A command succeeds exactly if its second call has a value.** -/
theorem Takes.message?_eq_none_iff (h : t.Takes c directory first second course) :
    course.message? = none ↔ ∃ ws id answer, c.Lists first ws ∧ IsFirstBound ws directory id ∧
      (t.operation id).Ends c second (.answered answer) := by
  constructor
  · intro hmessage
    cases h with
    | unavailable => cases hmessage
    | unbound => cases hmessage
    | answered hws hid hending => exact ⟨_, _, _, hws, hid, hending⟩
    | failed => cases hmessage
  · rintro ⟨ws, id, answer, hws, hid, hending⟩
    rw [h.eq_of_isFirstBound hws hid hending]
    rfl

end TaskCommand

/-- Resolving a status changes nothing on the daemon's side. -/
theorem Session.method_of_mem_run_resolve {c : Client} {reactions : List Reaction}
    {path : Option String} {request : Request}
    (h : request ∈ (Session.run c reactions [.resolve path]).flatMap (·.request?.toList)) :
    request.method = .get := by
  have hmem : request ∈ (c.run ((Call.resolve path).map Answer.status) reactions).request? := by
    simpa [Session.run, Session.report, Step.call?] using h
  exact (Client.request_eq_ok (Client.request_of_mem_run hmem)).2.1

theorem ProgramReport.Shows.ending_eq_iff {p : ProgramReport} {d : Diagnostics}
    {onTerminal : Bool} {shown : String} {reports : List (Report Session.Answer)}
    {lines : List String} {message? : Option String}
    (h : p.Shows d onTerminal shown reports lines message?) : p.ending = .exit 0 ↔ message? = none := by
  rw [h.ending]
  cases message? <;> simp

/-- A run of the program shows the session of the course that its command takes. -/
theorem Situation.Calls.shows_course {s : Situation} {words : List String} {c : Client}
    {d : Diagnostics} {shown : String} {t : TaskCommand} {path? : Option String}
    (h : s.Calls words c d shown (t.command path?)) {first second : Reaction}
    {rest : List Reaction} (hreactions : s.reactions = first :: second :: rest) {course : Course}
    (htakes : t.Takes c (projectPath s.directory path?) first second course) :
    (s.run words).Shows d s.onTerminal shown (Session.run c s.reactions course.steps) course.lines
      course.message? := by
  refine h.shows ?_
  rw [hreactions]
  exact htakes.run_command rest

/-- **A run of the program for a command about tasks takes exactly one course, and shows it**,
unless a call ends in a mishap. The list of workspaces is asked for once; a second call is made
exactly if a workspace in the list is bound to the project's directory, about the first such
workspace; without it the run fails, and nothing was asked that could change anything. The run
succeeds exactly if the second call has its value. -/
theorem Situation.taskCommand_takes {s : Situation} {words : List String} {c : Client}
    {d : Diagnostics} {shown : String} {t : TaskCommand} {path? : Option String}
    (h : s.Calls words c d shown (t.command path?)) {first second : Reaction}
    {rest : List Reaction} (hreactions : s.reactions = first :: second :: rest)
    (hcalm : t.Undisturbed c (projectPath s.directory path?) first second) :
    ∃ course, t.Takes c (projectPath s.directory path?) first second course ∧
      (∀ other, t.Takes c (projectPath s.directory path?) first second other → other = course) ∧
      (s.run words).Shows d s.onTerminal shown (Session.run c s.reactions course.steps)
        course.lines course.message? ∧
      (∀ id, course.steps =
          [.resolve (some (projectPath s.directory path?)), (t.operation id).step] ↔
        ∃ ws, c.Lists first ws ∧ IsFirstBound ws (projectPath s.directory path?) id) ∧
      ((∀ ws, c.Lists first ws → ∀ w ∈ ws, w.directory ≠ some (projectPath s.directory path?)) →
        course.steps = [.resolve (some (projectPath s.directory path?))] ∧
          (s.run words).ending = .exit 1 ∧
          ∀ request ∈ (s.run words).requests, request.method = .get) ∧
      ((s.run words).ending = .exit 0 ↔ ∃ ws id answer, c.Lists first ws ∧
        IsFirstBound ws (projectPath s.directory path?) id ∧
        (t.operation id).Ends c second (.answered answer)) := by
  obtain ⟨course, htakes⟩ := TaskCommand.exists_takes hcalm
  have hshows := h.shows_course hreactions htakes
  refine ⟨course, htakes, fun other h' => htakes.unique h', hshows, htakes.steps_eq_iff, ?_, ?_⟩
  · intro hunbound
    obtain ⟨hsteps, hmessage⟩ := htakes.steps_of_unbound hunbound
    refine ⟨hsteps, ?_, ?_⟩
    · rw [hshows.ending, hmessage]
      rfl
    · intro request hrequest
      rw [hshows.requests, hsteps] at hrequest
      exact Session.method_of_mem_run_resolve hrequest
  · rw [hshows.ending_eq_iff, htakes.message?_eq_none_iff]

/-- A response with a document as its body. -/
def Response.ofJson (status : Nat) (document : Json) : Response :=
  ⟨status, [], (Json.compact document).toUTF8⟩

theorem Response.body_ofJson (status : Nat) (document : Json) :
    (ofJson status document).body = (Json.compact document).toUTF8 := rfl

theorem Response.decoded_ofJson (status : Nat) (document : Json) :
    (ofJson status document).decoded = .ok (ofJson status document) :=
  decoded_of_codings rfl

/-- A list of one workspace. -/
def oneWorkspace (id : String) : Json :=
  .object [("workspaces", .array [.object [("id", .text id), ("localRepoDir", .text "/p")]])]

theorem lists_oneWorkspace (id : String) :
    ({} : Client).Lists (.respond (.ofJson 200 (oneWorkspace id)))
      [⟨id, none, some "/p", none, none⟩] := by
  have hread : Json.decode? (Response.ofJson 200 (oneWorkspace id)).body =
      some (oneWorkspace id) := by
    rw [Response.body_ofJson]
    exact Json.decode?_compact
      (by simp [oneWorkspace, Json.IsLegible, Json.HasLegible, Json.AreLegible])
      (show (3 : Nat) ≤ Json.maxDepth by decide)
  have hdecode := (Model.decode_eq_ok_iff .workspaceList _ _).2 ⟨_, hread, rfl⟩
  refine ⟨_, ⟨⟨_, rfl, Response.decoded_ofJson _ _⟩, _, rfl, ?_⟩, rfl, _, hdecode, rfl⟩
  rintro location ⟨⟩

/-- The first workspace of the list is bound to its directory. -/
theorem isFirstBound_oneWorkspace (id : String) :
    IsFirstBound [⟨id, none, some "/p", none, none⟩] "/p" id := by
  refine ⟨0, _, rfl, rfl, rfl, ?_⟩
  rintro j ⟨⟩

/-- The daemon lists one workspace, and then answers something. -/
def Situation.listing (id : String) (answer : Response) : Situation where
  directory := "/p"
  surroundings := ⟨[], none⟩
  client? := none
  reactions := [.respond (.ofJson 200 (oneWorkspace id)), .respond answer]

/-- A task is to be removed. -/
theorem Situation.calls_taskDelete (id : String) (answer : Response) :
    (listing id answer).Calls ["task-delete", "t1"] {} .usual ""
      ((TaskCommand.remove "t1").command none) :=
  @Calls.intro _ _ ⟨[], ["task-delete", "t1"]⟩ ⟨[], ["t1"]⟩ "task-delete" ["t1"] .taskDelete {} ""
    _ rfl rfl rfl rfl rfl Diagnostics.setup_usual rfl rfl rfl

/-- A task of the workspace that is listed is removed. -/
theorem Situation.taskCommand_takes_obliging :
    (listing "w1" ⟨204, [], .empty⟩).Calls ["task-delete", "t1"] {} .usual ""
        ((TaskCommand.remove "t1").command none) ∧
      (TaskCommand.remove "t1").Undisturbed {} "/p" (.respond (.ofJson 200 (oneWorkspace "w1")))
        (.respond ⟨204, [], .empty⟩) ∧
      ((listing "w1" ⟨204, [], .empty⟩).run ["task-delete", "t1"]).ending = .exit 0 := by
  have hws := lists_oneWorkspace "w1"
  have hid := isFirstBound_oneWorkspace "w1"
  have hends : ((TaskCommand.remove "t1").operation "w1").Ends {}
      (.respond ⟨204, [], .empty⟩) (.answered .nothing) := Operation.ends_deleteTask
  have hcalm := TaskCommand.undisturbed_of_ends hws hid hends
  obtain ⟨course, -, -, -, -, -, hsucceeds⟩ := taskCommand_takes (calls_taskDelete _ _) rfl hcalm
  exact ⟨calls_taskDelete _ _, hcalm, hsucceeds.2 ⟨_, "w1", .nothing, hws, hid, hends⟩⟩

/-- A refusal with a reason that would be red on a terminal. -/
def redRefusal : Response := .ofJson 500 (.object [("error", .text "\x1b[31mno")])

/-- A reason loses its escape sequences where it is not printed on a terminal. -/
theorem Situation.taskCommand_refused_in_red :
    ((TaskCommand.remove "t1").operation "w1").Ends {} (.respond redRefusal)
        (.refused 500 "\x1b[31mno") ∧
      ((listing "w1" redRefusal).run ["task-delete", "t1"]).ending = .exit 1 ∧
      ((listing "w1" redRefusal).run ["task-delete", "t1"]).err = "Error: no\n" := by
  have hread : Json.decode? redRefusal.body = some (.object [("error", .text "\x1b[31mno")]) :=
    Json.decode?_compact (by simp [Json.IsLegible, Json.HasLegible]) (by decide)
  have hends : ((TaskCommand.remove "t1").operation "w1").Ends {} (.respond redRefusal)
      (.refused 500 "\x1b[31mno") := by
    refine .refused ⟨⟨_, rfl, Response.decoded_ofJson _ _⟩, _, rfl, ?_⟩ (by decide)
      ⟨_, hread, rfl⟩
    rintro location ⟨⟩
  have hshows := (calls_taskDelete "w1" redRefusal).shows_course rfl
    (.failed (lists_oneWorkspace "w1") (isFirstBound_oneWorkspace "w1") hends rfl)
  refine ⟨hends, hshows.ending, ?_⟩
  rw [hshows.err, Diagnostics.inForce_usual.remarks_eq_empty]
  · decide
  · intro r hr
    rw [Session.level_of_mem_remarks hr]
    decide

end WorkspaceWatch
