/-
**How operations end.**

All that can be asked of the daemon but the list of workspaces either has a value or fails with a
message, and with a status if a response came, unless a host cannot be named: nobody looks out for
that.  Apart from it an operation has exactly one of four ends; which one follows from what became of
its request and from the body of the response, and is said here without following the call.

Main definitions:

* `WorkspaceWatch.GivesReason` — a body gives a reason for a refusal;
* `WorkspaceWatch.Operation`, `WorkspaceWatch.Operation.value` — the operations, and the value that
  the body of a success holds for each;
* `WorkspaceWatch.Ending`, `WorkspaceWatch.Ending.seen` — the four ends, and what the caller sees of
  each;
* `WorkspaceWatch.Operation.Ends` — the end of an operation, by the daemon's reaction.

Main results:

* `WorkspaceWatch.refusalReason?_eq_some_iff` — the reason for a refusal is the text under `error`;
* `WorkspaceWatch.Operation.conclude_call` — each operation reads its value from the body, or says
  what the body should have been;
* `WorkspaceWatch.Operation.exists_ends`, `WorkspaceWatch.Operation.Ends.unique`,
  `WorkspaceWatch.Operation.Ends.seen?_report` — an operation that ends in no mishap has an end, it
  has no other, and the caller sees it;
* `WorkspaceWatch.Operation.report_ends` — **unless a host cannot be named, an operation has exactly
  one end, and its caller sees it**;
* `WorkspaceWatch.Operation.getTask_below_unnamed` — below a host that cannot be named, asking for a
  task is a mishap.
-/

import WorkspaceWatch.Proofs.Exchange
import WorkspaceWatch.Session

set_option autoImplicit false

namespace WorkspaceWatch

/-! ### The reason for a refusal -/

/-- A body gives a reason for a refusal: it is an object with a text under `error`. -/
def GivesReason (body : ByteArray) (reason : String) : Prop :=
  ∃ entries, Json.decode? body = some (.object entries) ∧
    Json.lookup? entries "error" = some (.text reason)

/-- The values of a report of failure. -/
def failureRow (reason : String) : Row Sheet.failure.fields := .cons ⟨reason, true⟩ .nil

theorem failure_exists_read_iff (v : Json) (reason : String) :
    (∃ e, Entry.read .failure v = .ok e ∧ e.row.full = (failureRow reason).full) ↔
      ∃ entries, v = .object entries ∧ Json.lookup? entries "error" = some (.text reason) := by
  have herror := fun entries => Field.holds_text_iff "error" "error" entries reason
  simp only [Json.standing?_self] at herror
  rw [Entry.exists_read_iff Sheet.isFree_failure]
  constructor
  · rintro ⟨entries, rfl, h, -⟩
    exact ⟨entries, rfl, (herror entries).1 h⟩
  · rintro ⟨entries, rfl, h⟩
    exact ⟨entries, rfl, (herror entries).2 h, trivial⟩

/-- The one text in the row of a report of failure. -/
def failureReason : Row Sheet.failure.fields → String
  | .cons reason .nil => reason.value

theorem full_eq_failureRow_iff (row : Row Sheet.failure.fields) (reason : String) :
    row.full = (failureRow reason).full ↔ failureReason row = reason := by
  cases row with
  | cons cell rest =>
      cases rest
      constructor
      · intro h
        cases h
        rfl
      · rintro rfl
        rfl

theorem refusalReason?_eq_some (body : ByteArray) (reason : String) :
    Call.refusalReason? body = some reason ↔
      ∃ e, (Model.entry .failure).decode body = .ok e ∧ failureReason (Entry.row e) = reason := by
  -- the rule of reading a report looks into its row, which has one cell
  have hreason : Call.refusalReason? body =
      ((Model.entry .failure).decode body).toOption.map fun e => failureReason (Entry.row e) := by
    unfold Call.refusalReason?
    cases (Model.entry .failure).decode body with
    | error rejection => rfl
    | ok e =>
        obtain ⟨row, h⟩ := e
        cases row with
        | cons cell rest =>
            cases rest
            rfl
  rw [hreason]
  cases (Model.entry .failure).decode body with
  | error rejection =>
      constructor
      · intro h
        cases h
      · rintro ⟨e, he, -⟩
        cases he
  | ok e =>
      constructor
      · intro h
        exact ⟨e, rfl, Option.some.inj h⟩
      · rintro ⟨e', he, h⟩
        cases he
        exact congrArg some h

/-- **The reason for a refusal is the text under `error`**, if the body is an object with one. -/
theorem refusalReason?_eq_some_iff (body : ByteArray) (reason : String) :
    Call.refusalReason? body = some reason ↔ GivesReason body reason := by
  rw [refusalReason?_eq_some]
  constructor
  · rintro ⟨e, hd, hrow⟩
    obtain ⟨v, hv, hr⟩ := ((Model.entry .failure).decode_eq_ok_iff body e).1 hd
    rw [Model.read_entry] at hr
    have hfull := (full_eq_failureRow_iff e.row reason).2 hrow
    obtain ⟨entries, rfl, he⟩ := (failure_exists_read_iff v reason).1 ⟨e, hr, hfull⟩
    exact ⟨entries, hv, he⟩
  · rintro ⟨entries, hv, he⟩
    obtain ⟨e, hr, hfull⟩ := (failure_exists_read_iff _ reason).2 ⟨entries, rfl, he⟩
    refine ⟨e, ((Model.entry .failure).decode_eq_ok_iff body e).2 ⟨_, hv, ?_⟩, ?_⟩
    · rw [Model.read_entry]
      exact hr
    · exact (full_eq_failureRow_iff e.row reason).1 hfull

theorem refusalReason?_eq_none_iff (body : ByteArray) :
    Call.refusalReason? body = none ↔ ∀ reason, ¬GivesReason body reason := by
  simp only [← refusalReason?_eq_some_iff, Option.eq_none_iff_forall_ne_some, ne_eq]

/-! ### The operations -/

/-- What can be asked of the daemon, but for the list of workspaces: to create a workspace, for the
tasks of a workspace, perhaps only those in some states, and to create, give, replace or remove a
task. -/
inductive Operation where
  | createWorkspace (workspace : WorkspaceCreate)
  | listTasks (workspaceId : String) (statuses : List String)
  | createTask (workspaceId : String) (task : TaskRequest)
  | getTask (workspaceId taskId : String)
  | updateTask (workspaceId taskId : String) (task : TaskRequest)
  | deleteTask (workspaceId taskId : String)

namespace Operation

/-- The step of a session that carries an operation out. -/
def step : Operation → Session.Step
  | createWorkspace w => .createWorkspace w
  | listTasks w statuses => .listTasks w statuses
  | createTask w t => .createTask w t
  | getTask w t => .getTask w t
  | updateTask w t task => .updateTask w t task
  | deleteTask w t => .deleteTask w t

/-- The call of an operation. -/
def call : Operation → Call Session.Answer
  | createWorkspace w => (Call.createWorkspace w).map .workspace
  | listTasks w statuses => (Call.listTasks w statuses).map .tasks
  | createTask w t => (Call.createTask w t).map .task
  | getTask w t => (Call.getTask w t).map .task
  | updateTask w t task => (Call.updateTask w t task).map .task
  | deleteTask w t => (Call.deleteTask w t).map fun _ => .nothing

@[simp] theorem call?_step (op : Operation) : op.step.call? = some op.call := by
  cases op <;> rfl

/-- What a body holds, or what it should have been. -/
def holding {α : Type} (what : String) (answer : α → Session.Answer) :
    Except Rejection α → Except String Session.Answer
  | .ok a => .ok (answer a)
  | .error _ => .error what

/-- What the body of a success holds for an operation.  The removal of a task has no use for it. -/
def value : Operation → ByteArray → Except String Session.Answer
  | createWorkspace _, body =>
    holding "workspace" (fun s => .workspace (Workspace.ofEntry s.entry)) (Reply.workspace.decode body)
  | listTasks _ _, body =>
    holding "task list" (fun es => .tasks (List.map Task.ofEntry es)) (Model.taskList.decode body)
  | createTask _ _, body | getTask _ _, body | updateTask _ _ _, body =>
    holding "task" (fun s => .task (Task.ofEntry s.entry)) (Reply.task.decode body)
  | deleteTask _ _, _ => .ok .nothing

end Operation

/-- A call whose result is taken on still reads its success from the response. -/
theorem Call.conclude_map {α β : Type} (call : Call α) {read : Response → Except ApiError α}
    (h : call.conclude = concluding read) (f : α → β) :
    (call.map f).conclude = concluding fun r => (read r).map f := by
  funext outcome
  simp only [map, h]
  cases outcome with
  | response r =>
      simp only [concluding]
      split
      · cases read r <;> rfl
      · rfl
  | failure f => rfl
  | escaped m => rfl
  | exhausted => rfl

theorem Call.readable_map {α β : Type} (what : String) (decode : ByteArray → Except Rejection α)
    (f : α → β) (g : β → Session.Answer) (r : Response) :
    ((readable what decode r).map f).map g =
      (Operation.holding what (fun a => g (f a)) (decode r.body)).mapError (.unreadable r.status) := by
  unfold readable
  cases decode r.body <;> rfl

/-- **Each operation reads its value from the body of a success**, or says what the body should
have been. -/
theorem Operation.conclude_call (op : Operation) :
    op.call.conclude =
      Call.concluding fun r => (op.value r.body).mapError (.unreadable r.status) := by
  cases op with
  | createWorkspace w =>
      rw [call, Call.conclude_map (Call.createWorkspace w) rfl]
      exact congrArg _ (funext fun r => Call.readable_map ..)
  | listTasks w statuses =>
      rw [call, Call.conclude_map (Call.listTasks w statuses) rfl]
      exact congrArg _ (funext fun r => Call.readable_map ..)
  | createTask w t =>
      rw [call, Call.conclude_map (Call.createTask w t) rfl]
      exact congrArg _ (funext fun r => Call.readable_map ..)
  | getTask w t =>
      rw [call, Call.conclude_map (Call.getTask w t) rfl]
      exact congrArg _ (funext fun r => Call.readable_map ..)
  | updateTask w t task =>
      rw [call, Call.conclude_map (Call.updateTask w t task) rfl]
      exact congrArg _ (funext fun r => Call.readable_map ..)
  | deleteTask w t =>
      rw [call, Call.conclude_map (Call.deleteTask w t) rfl]
      rfl

/-! ### The ends of an operation -/

/-- How an operation ends: no response arrived, the daemon refused, the body of a success could not
be read, or the operation has its value. -/
inductive Ending where
  | unsent (message : String)
  | refused (status : Nat) (message : String)
  | unreadable (status : Nat) (message : String)
  | answered (answer : Session.Answer)

/-- What the caller sees of an end: the value, or a status if there is one and a message. -/
def Ending.seen : Ending → Except (Option Nat × String) Session.Answer
  | unsent message => .error (none, message)
  | refused status message => .error (some status, message)
  | unreadable status message => .error (some status, message)
  | answered answer => .ok answer

/-- What the caller sees of a result: the value, or the status and the message of the error.  There
is nothing of the kind to see if the daemon had no reaction left, or after a mishap. -/
def seen? : Except CallError Session.Answer → Option (Except (Option Nat × String) Session.Answer)
  | .ok answer => some (.ok answer)
  | .error (.api e) => some (.error (e.status?, e.message))
  | .error (.escaped _) => none
  | .error .exhausted => none

namespace Operation

/-- The end of an operation when the daemon's reaction is the given one. A request that fails
without a word is told by the kind of the failure, and a refusal that gives no reason by its status.
-/
inductive Ends (op : Operation) (c : Client) (reaction : Reaction) : Ending → Prop
  | unsent {failure : SendFailure} : c.Fails op.call.order reaction failure → failure.text ≠ "" →
      op.Ends c reaction (.unsent failure.text)
  | silent {failure : SendFailure} : c.Fails op.call.order reaction failure → failure.text = "" →
      op.Ends c reaction (.unsent failure.kind)
  | refused {response : Response} {reason : String} :
      c.Receives op.call.order reaction response →
      ¬(200 ≤ response.status ∧ response.status ≤ 299) → GivesReason response.body reason →
      op.Ends c reaction (.refused response.status reason)
  | unexplained {response : Response} : c.Receives op.call.order reaction response →
      ¬(200 ≤ response.status ∧ response.status ≤ 299) →
      (∀ reason, ¬GivesReason response.body reason) →
      op.Ends c reaction
        (.refused response.status ("Unexpected error: " ++ toString response.status))
  | unreadable {response : Response} {what : String} :
      c.Receives op.call.order reaction response →
      200 ≤ response.status ∧ response.status ≤ 299 → op.value response.body = .error what →
      op.Ends c reaction
        (.unreadable response.status ("Daemon returned an unreadable " ++ what))
  | answered {response : Response} {answer : Session.Answer} :
      c.Receives op.call.order reaction response →
      200 ≤ response.status ∧ response.status ≤ 299 → op.value response.body = .ok answer →
      op.Ends c reaction (.answered answer)

variable {op : Operation} {c : Client} {reaction : Reaction}

/-- An operation whose request fails has one end. -/
theorem ends_iff_of_fails {failure : SendFailure} (h : c.Fails op.call.order reaction failure)
    (ending : Ending) : op.Ends c reaction ending ↔ ending = .unsent failure.message := by
  constructor
  · intro he
    cases he with
    | unsent h' ht =>
        rw [h.unique h', SendFailure.message, if_neg ht]
    | silent h' ht =>
        rw [h.unique h', SendFailure.message, if_pos ht]
    | refused h' => exact absurd h' (h.not_receives _)
    | unexplained h' => exact absurd h' (h.not_receives _)
    | unreadable h' => exact absurd h' (h.not_receives _)
    | answered h' => exact absurd h' (h.not_receives _)
  · rintro rfl
    by_cases ht : failure.text = ""
    · rw [SendFailure.message, if_pos ht]
      exact .silent h ht
    · rw [SendFailure.message, if_neg ht]
      exact .unsent h ht

/-- An operation that is answered with another status than success has one end. -/
theorem ends_iff_of_not_isSuccess {r : Response} (h : c.Receives op.call.order reaction r)
    (hs : ¬(200 ≤ r.status ∧ r.status ≤ 299)) (ending : Ending) :
    op.Ends c reaction ending ↔
      ending = .refused r.status (ApiError.refused r.status (Call.refusalReason? r.body)).message := by
  constructor
  · intro he
    cases he with
    | unsent h' => exact absurd h (h'.not_receives r)
    | silent h' => exact absurd h (h'.not_receives r)
    | refused h' _ hreason =>
        rw [← h.unique h'] at hreason ⊢
        rw [(refusalReason?_eq_some_iff _ _).2 hreason]
        rfl
    | unexplained h' _ hnone =>
        rw [← h.unique h'] at hnone ⊢
        rw [(refusalReason?_eq_none_iff _).2 hnone]
        rfl
    | unreadable h' hs' => exact absurd (h.unique h' ▸ hs') hs
    | answered h' hs' => exact absurd (h.unique h' ▸ hs') hs
  · rintro rfl
    cases hr : Call.refusalReason? r.body with
    | some reason => exact .refused h hs ((refusalReason?_eq_some_iff _ _).1 hr)
    | none => exact .unexplained h hs ((refusalReason?_eq_none_iff _).1 hr)

/-- An operation that is answered with success has one end. -/
theorem ends_iff_of_isSuccess {r : Response} (h : c.Receives op.call.order reaction r)
    (hs : 200 ≤ r.status ∧ r.status ≤ 299) (ending : Ending) :
    op.Ends c reaction ending ↔
      ending = match op.value r.body with
        | .ok answer => .answered answer
        | .error what => .unreadable r.status ("Daemon returned an unreadable " ++ what) := by
  constructor
  · intro he
    cases he with
    | unsent h' => exact absurd h (h'.not_receives r)
    | silent h' => exact absurd h (h'.not_receives r)
    | refused h' hs' => exact absurd hs (h.unique h' ▸ hs')
    | unexplained h' hs' => exact absurd hs (h.unique h' ▸ hs')
    | unreadable h' _ hv =>
        rw [← h.unique h'] at hv ⊢
        rw [hv]
    | answered h' _ hv =>
        rw [← h.unique h'] at hv
        rw [hv]
  · rintro rfl
    cases hv : op.value r.body with
    | ok answer => exact .answered h hs hv
    | error what => exact .unreadable h hs hv

/-- An operation that ends in no mishap has an end. -/
theorem exists_ends (h : ∀ m, ¬c.Escapes op.call.order reaction m) :
    ∃ ending, op.Ends c reaction ending := by
  rcases c.fails_or_receives_or_escapes op.call.order reaction with ⟨f, hf⟩ | ⟨r, hr⟩ | ⟨m, hm⟩
  · exact ⟨_, (ends_iff_of_fails hf _).2 rfl⟩
  · by_cases hs : 200 ≤ r.status ∧ r.status ≤ 299
    · exact ⟨_, (ends_iff_of_isSuccess hr hs _).2 rfl⟩
    · exact ⟨_, (ends_iff_of_not_isSuccess hr hs _).2 rfl⟩
  · exact absurd hm (h m)

/-- An operation with an end fails, or gets its response. -/
theorem Ends.fails_or_receives {ending : Ending} (h : op.Ends c reaction ending) :
    (∃ f, c.Fails op.call.order reaction f) ∨ ∃ r, c.Receives op.call.order reaction r := by
  cases h with
  | unsent hf => exact .inl ⟨_, hf⟩
  | silent hf => exact .inl ⟨_, hf⟩
  | refused hr => exact .inr ⟨_, hr⟩
  | unexplained hr => exact .inr ⟨_, hr⟩
  | unreadable hr => exact .inr ⟨_, hr⟩
  | answered hr => exact .inr ⟨_, hr⟩

/-- An operation with an end does not end in a mishap. -/
theorem Ends.not_escapes {ending : Ending} (h : op.Ends c reaction ending) (m : Mishap) :
    ¬c.Escapes op.call.order reaction m := by
  intro hm
  rcases h.fails_or_receives with ⟨f, hf⟩ | ⟨r, hr⟩
  · exact hm.not_fails f hf
  · exact hm.not_receives r hr

/-- **An operation has one end only.** -/
theorem Ends.unique {ending other : Ending} (h : op.Ends c reaction ending)
    (h' : op.Ends c reaction other) : other = ending := by
  rcases h.fails_or_receives with ⟨f, hf⟩ | ⟨r, hr⟩
  · rw [ends_iff_of_fails hf] at h h'
    rw [h, h']
  · by_cases hs : 200 ≤ r.status ∧ r.status ≤ 299
    · rw [ends_iff_of_isSuccess hr hs] at h h'
      rw [h, h']
    · rw [ends_iff_of_not_isSuccess hr hs] at h h'
      rw [h, h']

theorem report_step (op : Operation) (c : Client) (reactions : List Reaction) :
    Session.report c reactions op.step = c.run op.call reactions := by
  simp [Session.report]

/-- **The caller sees the end of an operation.** -/
theorem Ends.seen?_report {ending : Ending} (h : op.Ends c reaction ending) (rest : List Reaction) :
    seen? (Session.report c (reaction :: rest) op.step).result = some ending.seen := by
  rw [report_step]
  rcases h.fails_or_receives with ⟨f, hf⟩ | ⟨r, hr⟩
  · rw [(ends_iff_of_fails hf _).1 h, hf.run_result op.conclude_call rest]
    rfl
  · by_cases hs : 200 ≤ r.status ∧ r.status ≤ 299
    · have hsuccess : r.isSuccess = true := by simpa [Response.isSuccess] using hs
      rw [(ends_iff_of_isSuccess hr hs _).1 h,
        hr.run_result_of_isSuccess op.conclude_call hsuccess rest]
      cases op.value r.body <;> rfl
    · have hrefusal : r.isSuccess = false := by simpa [Response.isSuccess] using hs
      rw [(ends_iff_of_not_isSuccess hr hs _).1 h,
        hr.run_result_of_not_isSuccess op.conclude_call hrefusal rest]
      rfl

/-- **A mishap is what the caller sees exactly if the order ends in it.** -/
theorem report_eq_escaped_iff (op : Operation) (c : Client) (reaction : Reaction)
    (rest : List Reaction) (m : Mishap) :
    (Session.report c (reaction :: rest) op.step).result = .error (.escaped m) ↔
      c.Escapes op.call.order reaction m := by
  constructor
  · intro h
    by_cases hnamed : ∀ m, ¬c.Escapes op.call.order reaction m
    · obtain ⟨ending, hends⟩ := exists_ends hnamed
      have hseen := hends.seen?_report rest
      rw [h] at hseen
      cases hseen
    · obtain ⟨m', hm'⟩ := not_forall_not.1 hnamed
      rw [report_step, hm'.run_result op.conclude_call rest] at h
      cases h
      exact hm'
  · intro h
    rw [report_step, h.run_result op.conclude_call rest]

/-- Without a response, the caller sees no status. -/
theorem Ends.seen_of_fails {ending : Ending} (h : op.Ends c reaction ending) {f : SendFailure}
    (hf : c.Fails op.call.order reaction f) : ending.seen = .error (none, f.message) := by
  rw [(ends_iff_of_fails hf _).1 h]
  rfl

/-- If there is a response, a failure has its status. -/
theorem Ends.status?_eq {ending : Ending} (h : op.Ends c reaction ending) {r : Response}
    (hr : c.Receives op.call.order reaction r) {status? : Option Nat} {message : String}
    (hseen : ending.seen = .error (status?, message)) : status? = some r.status := by
  cases h with
  | unsent hf => exact absurd hr (hf.not_receives r)
  | silent hf => exact absurd hr (hf.not_receives r)
  | refused hr' =>
      cases hseen
      rw [hr.unique hr']
  | unexplained hr' =>
      cases hseen
      rw [hr.unique hr']
  | unreadable hr' =>
      cases hseen
      rw [hr.unique hr']
  | answered => cases hseen

/-- The removal of a task has no body to read. -/
theorem Ends.ne_unreadable {w t : String} {ending : Ending}
    (h : (deleteTask w t).Ends c reaction ending) (status : Nat) (message : String) :
    ending ≠ .unreadable status message := by
  rintro rfl
  cases h with
  | unreadable _ _ hv => cases hv

/-- **Unless a host cannot be named, an operation has exactly one end, and its caller sees it.**  Where
its order ends in a mishap, the operation does, and only there.  Otherwise the end is failure without
a status exactly if no response arrives; else a failure has the status of the response, and the
removal of a task never fails for its body. -/
theorem report_ends (op : Operation) (c : Client) (reaction : Reaction) (rest : List Reaction) :
    (∀ m, (Session.report c (reaction :: rest) op.step).result = .error (.escaped m) ↔
      c.Escapes op.call.order reaction m) ∧
    ((∀ m, ¬c.Escapes op.call.order reaction m) →
      ∃ ending, op.Ends c reaction ending ∧
        (∀ other, op.Ends c reaction other → other = ending) ∧
        seen? (Session.report c (reaction :: rest) op.step).result = some ending.seen ∧
        ((∃ message, ending.seen = .error (none, message)) ↔
          ∀ response, ¬c.Receives op.call.order reaction response) ∧
        (∀ response, c.Receives op.call.order reaction response → ∀ status? message,
          ending.seen = .error (status?, message) → status? = some response.status) ∧
        ∀ w t, op = deleteTask w t → ∀ status message, ending ≠ .unreadable status message) := by
  refine ⟨op.report_eq_escaped_iff c reaction rest, fun hnamed => ?_⟩
  obtain ⟨ending, h⟩ := exists_ends hnamed
  refine ⟨ending, h, fun other h' => h.unique h', h.seen?_report rest, ?_, ?_, ?_⟩
  · constructor
    · rintro ⟨message, hseen⟩ r hr
      cases h.status?_eq hr hseen
    · intro hnone
      rcases h.fails_or_receives with ⟨f, hf⟩ | ⟨r, hr⟩
      · exact ⟨f.message, h.seen_of_fails hf⟩
      · exact absurd hr (hnone r)
  · intro r hr status? message hseen
    exact h.status?_eq hr hseen
  · rintro w t rfl status message
    exact h.ne_unreadable status message

/-- The removal of a task that the daemon answers has nothing for its value. -/
theorem ends_deleteTask : (deleteTask "w1" "t1").Ends {} (.respond ⟨204, [], .empty⟩)
    (.answered .nothing) := by
  refine .answered ⟨⟨_, rfl, Response.decoded_of_codings rfl⟩, _, rfl, ?_⟩ (by decide) rfl
  rintro location ⟨⟩

/-- It ends in no mishap, and the caller sees its value. -/
theorem report_ends_removed :
    (∀ m, ¬({} : Client).Escapes (deleteTask "w1" "t1").call.order
        (.respond ⟨204, [], .empty⟩) m) ∧
      seen? (Session.report {} [.respond ⟨204, [], .empty⟩] (deleteTask "w1" "t1").step).result =
        some (.ok .nothing) := by
  have hcalm := ends_deleteTask.not_escapes
  obtain ⟨ending, -, hunique, hseen, -⟩ := (report_ends (deleteTask "w1" "t1") {} _ []).2 hcalm
  rw [← hunique _ ends_deleteTask] at hseen
  exact ⟨hcalm, hseen⟩

/-- Below a host that cannot be named, asking for a task is a mishap, and the daemon does not know
of it. -/
theorem getTask_below_unnamed :
    (Session.report ⟨"http://xn--/", none⟩ [.respond ⟨200, [], .empty⟩] (.getTask "w" "t")).result =
        .error (.escaped ⟨"IDNAError", "Malformed A-label, no Punycode eligible content found"⟩) ∧
      (Session.report ⟨"http://xn--/", none⟩ [.respond ⟨200, [], .empty⟩]
        (.getTask "w" "t")).request? = none :=
  ⟨rfl, rfl⟩

end Operation

end WorkspaceWatch
