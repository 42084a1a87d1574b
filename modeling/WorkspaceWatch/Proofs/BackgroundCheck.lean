/-
**Checks follow the resolving of a status.**

A check in the background resolves a status and hands it to a receiver.  Whatever the receivers do,
a row of checks goes as the statuses of the same projects are resolved one after another: the same
requests, the same statuses, each of them delivered once, and the same mishaps.  A receiver that
fails makes its own check fail with its own error, and no other check knows of it.

Main definitions:

* `WorkspaceWatch.Receiver.Takes`, `WorkspaceWatch.Receiver.FailsWith` — what a receiver does with a
  status;
* `WorkspaceWatch.CheckReport.Follows` — a check goes as the resolving of its status does.

Main results:

* `WorkspaceWatch.Client.check_follows` — a check follows the resolving of its status;
* `WorkspaceWatch.Client.getElem?_checks` — a check finds the reactions that its forerunners left,
  whatever their receivers did;
* `WorkspaceWatch.Client.checks_follow_resolves` — **checks follow the resolving of their statuses,
  and no receiver has a part in another check**;
* `WorkspaceWatch.Client.check_led_astray` — after a redirect to a host that cannot be named, nothing
  is delivered.
-/

import WorkspaceWatch.Proofs.Independence
import WorkspaceWatch.Proofs.Resolution
import WorkspaceWatch.Status.Background

set_option autoImplicit false

namespace WorkspaceWatch

/-! ### Receivers -/

namespace Receiver

/-- A receiver takes a status: it returns nothing, or something to wait for that comes to an end. -/
def Takes (receiver : Receiver) (s : Status) : Prop :=
  receiver s = .ok .nothing ∨ receiver s = .ok (.awaitable (.ok ()))

/-- A receiver fails over a status. -/
inductive FailsWith (receiver : Receiver) (s : Status) : CheckError → Prop
  | atOnce {mishap : Mishap} : receiver s = .error mishap → FailsWith receiver s (.receiver mishap)
  | waitedFor {mishap : Mishap} : receiver s = .ok (.awaitable (.error mishap)) →
      FailsWith receiver s (.receiver mishap)
  | notAwaitable {type : String} : receiver s = .ok (.value type) →
      FailsWith receiver s (.notAwaitable type)

theorem accept_eq_ok_iff (receiver : Receiver) (s : Status) :
    receiver.accept s = .ok () ↔ Takes receiver s := by
  unfold accept Takes
  cases receiver s with
  | error mishap => simp
  | ok returned =>
      cases returned with
      | nothing => simp [Returned.await]
      | awaitable outcome => cases outcome <;> simp [Returned.await, Except.mapError]
      | value type => simp [Returned.await]

theorem accept_eq_error_iff (receiver : Receiver) (s : Status) (e : CheckError) :
    receiver.accept s = .error e ↔ FailsWith receiver s e := by
  constructor
  · intro h
    unfold accept at h
    cases hr : receiver s with
    | error mishap =>
        rw [hr] at h
        cases h
        exact .atOnce hr
    | ok returned =>
        rw [hr] at h
        cases returned with
        | nothing => cases h
        | awaitable outcome =>
            cases outcome with
            | ok => cases h
            | error mishap =>
                cases h
                exact .waitedFor hr
        | value type =>
            cases h
            exact .notAwaitable hr
  · intro h
    unfold accept
    cases h with
    | atOnce hr => rw [hr]
    | waitedFor hr =>
        rw [hr]
        rfl
    | notAwaitable hr =>
        rw [hr]
        rfl

end Receiver

/-! ### One check -/

/-- Resolving a status fails only if the daemon has no reaction left, or by a mishap. -/
theorem Client.resolve_eq_error {c : Client} {path : Option String} {reactions : List Reaction}
    {e : CallError} (h : (c.run (Call.resolve path) reactions).result = .error e) :
    (e = .exhausted ∧ (c.run (Call.resolve path) reactions).rest = []) ∨ ∃ m, e = .escaped m := by
  cases reactions with
  | cons reaction rest =>
      -- a reaction that is left leads to a list, to none, or to a mishap
      right
      rcases c.lists_or_listsNothing_or_astray reaction with ⟨ws, hws⟩ | hnone | ⟨m, hm⟩
      · rw [hws.resolve path rest] at h
        cases h
      · rw [hnone.resolve path rest] at h
        cases h
      · rw [hm.resolve path rest] at h
        cases h
        exact ⟨m, rfl⟩
  | nil =>
      rw [run_result, exchange] at h
      rcases hq : c.request (Call.resolve path).order with (f | m) | request
      · rw [hq] at h
        cases h
      · rw [hq] at h
        cases h
        exact .inr ⟨m, rfl⟩
      · rw [hq] at h
        cases h
        exact .inl ⟨rfl, by rw [run_rest_eq_drop, List.drop_nil]⟩

theorem Session.report_resolve (c : Client) (reactions : List Reaction) (path : Option String) :
    report c reactions (.resolve path) =
      ⟨(c.run (Call.resolve path) reactions).result.map .status,
        (c.run (Call.resolve path) reactions).request?,
        (c.run (Call.resolve path) reactions).notes,
        (c.run (Call.resolve path) reactions).rest⟩ := by
  simp only [report, Step.call?, Client.run, Call.map]

/-- A check goes as the resolving of its status does. -/
structure CheckReport.Follows (check : CheckReport) (receiver? : Option Receiver)
    (resolve : Report Session.Answer) : Prop where
  /-- The same request is sent. -/
  request : check.request? = resolve.request?
  /-- The same notes are made. -/
  notes : check.notes = resolve.notes
  /-- The same reactions are left. -/
  rest : check.rest = resolve.rest
  /-- There is a status, unless the daemon has no reaction left or there was a mishap; then the check
  fails in the same way, and nothing is delivered. -/
  resolved : (∃ s, resolve.result = .ok (.status s)) ∨
    ∃ e, (e = .exhausted ∧ resolve.rest = [] ∨ ∃ m, e = .escaped m) ∧ resolve.result = .error e ∧
      check.result = .error (.call e) ∧ check.delivered = []
  /-- Without a receiver, the check has the status. -/
  unreceived : ∀ s, resolve.result = .ok (.status s) → receiver? = none →
    check.result = .ok s ∧ check.delivered = []
  /-- A receiver is given the status, once. -/
  delivered : ∀ s receiver, resolve.result = .ok (.status s) → receiver? = some receiver →
    check.delivered = [s]
  /-- The check has the status exactly if the receiver takes it. -/
  returned : ∀ s receiver, resolve.result = .ok (.status s) → receiver? = some receiver →
    ∀ s', check.result = .ok s' ↔ s' = s ∧ Receiver.Takes receiver s
  /-- It fails exactly as the receiver does. -/
  failed : ∀ s receiver, resolve.result = .ok (.status s) → receiver? = some receiver →
    ∀ e, check.result = .error e ↔ Receiver.FailsWith receiver s e

/-- What is made of a report follows the report. -/
theorem CheckReport.follows_ofReport (receiver? : Option Receiver) {r : Report Status}
    (h : ∀ e, r.result = .error e → e = .exhausted ∧ r.rest = [] ∨ ∃ m, e = .escaped m) :
    (ofReport receiver? r).Follows receiver?
      ⟨r.result.map .status, r.request?, r.notes, r.rest⟩ := by
  unfold ofReport
  cases hr : r.result with
  | error e =>
      exact ⟨rfl, rfl, rfl, .inr ⟨e, h e hr, rfl, rfl, rfl⟩, nofun, nofun, nofun, nofun⟩
  | ok s =>
      cases receiver? with
      | none =>
          refine ⟨rfl, rfl, rfl, .inl ⟨s, rfl⟩, ?_, nofun, nofun, nofun⟩
          rintro s ⟨⟩ -
          exact ⟨rfl, rfl⟩
      | some receiver =>
          refine ⟨rfl, rfl, rfl, .inl ⟨s, rfl⟩, nofun, ?_, ?_, ?_⟩
          · rintro s receiver ⟨⟩ ⟨⟩
            rfl
          · rintro s receiver ⟨⟩ ⟨⟩ s'
            rw [← Receiver.accept_eq_ok_iff]
            cases ha : Receiver.accept receiver s <;> simp [ha, Except.map, eq_comm]
          · rintro s receiver ⟨⟩ ⟨⟩ e
            rw [← Receiver.accept_eq_error_iff]
            cases ha : Receiver.accept receiver s <;> simp [ha, Except.map]

namespace Client

/-- **A check follows the resolving of its status.** -/
theorem check_follows (c : Client) (path : Option String) (receiver? : Option Receiver)
    (reactions : List Reaction) :
    (c.check path receiver? reactions).Follows receiver?
      (Session.report c reactions (.resolve path)) := by
  rw [Session.report_resolve]
  exact CheckReport.follows_ofReport receiver? fun _ => resolve_eq_error

/-! ### Checks one after another -/

/-- The statuses of the projects that a row of checks is about, resolved one after another. -/
def resolves (plan : List (Option String × Option Receiver)) : List Session.Step :=
  plan.map fun x => .resolve x.1

/-- The reactions that are left after some checks. -/
def leftAfter (c : Client) (reactions : List Reaction)
    (plan : List (Option String × Option Receiver)) : List Reaction :=
  reactions.drop (Session.used c (resolves plan))

theorem leftAfter_nil (c : Client) (reactions : List Reaction) :
    c.leftAfter reactions [] = reactions := by
  rw [leftAfter, resolves, List.map_nil, Session.used_nil, List.drop_zero]

theorem leftAfter_cons (c : Client) (reactions : List Reaction)
    (x : Option String × Option Receiver) (plan : List (Option String × Option Receiver)) :
    c.leftAfter reactions (x :: plan) =
      c.leftAfter (Session.report c reactions (.resolve x.1)).rest plan := by
  simp only [leftAfter, resolves, List.map_cons, Session.used_cons, Session.report_rest,
    List.drop_drop, Session.clientAfter]

/-- **A check finds the reactions that its forerunners left**, whatever their receivers did. -/
theorem getElem?_checks (c : Client) (reactions : List Reaction)
    (plan : List (Option String × Option Receiver)) (i : Nat) :
    (c.checks reactions plan)[i]? =
      plan[i]?.map fun x => c.check x.1 x.2 (c.leftAfter reactions (plan.take i)) := by
  induction plan generalizing reactions i with
  | nil => simp [checks]
  | cons x plan ih =>
      cases i with
      | zero => rw [List.take_zero, leftAfter_nil]; rfl
      | succ i =>
          rw [List.take_succ_cons, leftAfter_cons, ← (c.check_follows x.1 x.2 reactions).rest]
          exact ih _ i

/-- So does the resolving of a status. -/
theorem getElem?_run_resolves (c : Client) (reactions : List Reaction)
    (plan : List (Option String × Option Receiver)) (i : Nat) :
    (Session.run c reactions (resolves plan))[i]? =
      plan[i]?.map fun x =>
        Session.report c (c.leftAfter reactions (plan.take i)) (.resolve x.1) := by
  induction plan generalizing reactions i with
  | nil => simp [resolves, Session.run]
  | cons x plan ih =>
      cases i with
      | zero => rw [List.take_zero, leftAfter_nil]; rfl
      | succ i =>
          rw [List.take_succ_cons, leftAfter_cons]
          exact ih _ i

/-- Only the projects matter for the reactions that are left. -/
theorem leftAfter_take_congr (c : Client) (reactions : List Reaction)
    {plan other : List (Option String × Option Receiver)}
    (h : other.map Prod.fst = plan.map Prod.fst) (i : Nat) :
    c.leftAfter reactions (other.take i) = c.leftAfter reactions (plan.take i) := by
  have hresolves : ∀ plan : List (Option String × Option Receiver),
      resolves (plan.take i) = ((plan.map Prod.fst).take i).map .resolve := by
    intro plan
    simp [resolves, List.map_take, Function.comp_def]
  rw [leftAfter, leftAfter, hresolves, hresolves, h]

/-- A check whose project is the same at every place, and whose receiver is the same one, ends
alike. -/
theorem getElem?_checks_congr (c : Client) (reactions : List Reaction)
    {plan other : List (Option String × Option Receiver)}
    (h : other.map Prod.fst = plan.map Prod.fst) {i : Nat} (hi : other[i]? = plan[i]?) :
    (c.checks reactions other)[i]? = (c.checks reactions plan)[i]? := by
  rw [getElem?_checks, getElem?_checks, hi, c.leftAfter_take_congr reactions h i]

/-- The request of a check is that of resolving a status for its project. -/
theorem request?_getElem?_checks (c : Client) (reactions : List Reaction)
    (plan : List (Option String × Option Receiver)) (i : Nat) :
    (c.checks reactions plan)[i]?.map (·.request?) =
      (plan[i]?.map Prod.fst).map fun path =>
        (Session.report c (c.leftAfter reactions (plan.take i)) (.resolve path)).request? := by
  rw [getElem?_checks, Option.map_map, Option.map_map]
  exact congrArg (Option.map · plan[i]?) (funext fun x => (c.check_follows x.1 x.2 _).request)

/-- The requests of checks depend on the projects only. -/
theorem map_request?_checks_congr (c : Client) (reactions : List Reaction)
    {plan other : List (Option String × Option Receiver)}
    (h : other.map Prod.fst = plan.map Prod.fst) :
    (c.checks reactions other).map (·.request?) = (c.checks reactions plan).map (·.request?) := by
  refine List.ext_getElem? fun i => ?_
  have hpaths : other[i]?.map Prod.fst = plan[i]?.map Prod.fst := by
    rw [← List.getElem?_map, ← List.getElem?_map, h]
  rw [List.getElem?_map, List.getElem?_map, request?_getElem?_checks, request?_getElem?_checks,
    hpaths, c.leftAfter_take_congr reactions h i]

/-- **Checks follow the resolving of their statuses, and no receiver has a part in another check.**
Each check of a row goes as the resolving of the same status at the same place does.  With other
receivers, the same requests are sent, and a check whose receiver is the same one ends alike. -/
theorem checks_follow_resolves (c : Client) (reactions : List Reaction)
    (plan : List (Option String × Option Receiver)) :
    (∀ (i : Nat) path receiver?, plan[i]? = some (path, receiver?) →
      ∃ check resolve, (c.checks reactions plan)[i]? = some check ∧
        (Session.run c reactions (resolves plan))[i]? = some resolve ∧
        check.Follows receiver? resolve) ∧
    ∀ other, other.map Prod.fst = plan.map Prod.fst →
      (c.checks reactions other).map (·.request?) = (c.checks reactions plan).map (·.request?) ∧
      ∀ i : Nat, other[i]? = plan[i]? → (c.checks reactions other)[i]? = (c.checks reactions plan)[i]? := by
  constructor
  · intro i path receiver? hi
    refine ⟨c.check path receiver? (c.leftAfter reactions (plan.take i)),
      Session.report c (c.leftAfter reactions (plan.take i)) (.resolve path), ?_, ?_,
      c.check_follows path receiver? _⟩
    · rw [getElem?_checks, hi]
      rfl
    · rw [getElem?_run_resolves, hi]
      rfl
  · intro other hother
    exact ⟨c.map_request?_checks_congr reactions hother,
      fun i hi => c.getElem?_checks_congr reactions hother hi⟩

/-- A receiver that fails whatever it is given. -/
def failing : Receiver := fun _ => .error ⟨"ValueError", "callback failed"⟩

/-- A daemon that refuses the connection and then answers without a list. -/
def silence : List Reaction :=
  [.fail ⟨"ConnectError", "refused"⟩, .respond ⟨500, [], .empty⟩]

/-- The check of a receiver that fails goes as the resolving of its status, and the next check as
if there had been no receiver. -/
theorem checks_follow_resolves_failing :
    (∃ check resolve,
      (({} : Client).checks silence [(some "/p", some failing), (none, none)])[0]? = some check ∧
        (Session.run {} silence (resolves [(some "/p", some failing), (none, none)]))[0]? =
          some resolve ∧
        check.Follows (some failing) resolve) ∧
      (({} : Client).checks silence [(some "/p", none), (none, none)])[1]? =
        (({} : Client).checks silence [(some "/p", some failing), (none, none)])[1]? := by
  obtain ⟨hfollows, hothers⟩ :=
    checks_follow_resolves {} silence [(some "/p", some failing), (none, none)]
  obtain ⟨-, hsame⟩ := hothers [(some "/p", none), (none, none)] rfl
  exact ⟨hfollows 0 (some "/p") (some failing) rfl, hsame 1 rfl⟩

/-- After a redirect to a host that cannot be named, a receiver that would take any status is given
none. -/
theorem check_led_astray :
    (({} : Client).check (some "/p") (some fun _ => .ok .nothing)
        [.respond ⟨302, [("Location", "http://xn--/")], .empty⟩]).delivered = [] ∧
      (({} : Client).check (some "/p") (some fun _ => .ok .nothing)
        [.respond ⟨302, [("Location", "http://xn--/")], .empty⟩]).result =
          .error (.call (.escaped
            ⟨"IDNAError", "Malformed A-label, no Punycode eligible content found"⟩)) := by
  constructor <;> decide +kernel

end Client

end WorkspaceWatch
