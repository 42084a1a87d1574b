/-
**Calls that know nothing of each other.**

A client keeps nothing between two calls but its base URL, which only an assignment changes.  A call
sends one request or none, and uses up one reaction of the daemon exactly if it sends one, whatever
comes of it.  So a session is a row of calls made apart: each with a fresh client that has the base
URL then in force, and with just the reactions that the call uses up.

Main definitions:

* `WorkspaceWatch.Client.sends`, `WorkspaceWatch.Session.Step.uses` — whether an order is sent, and
  how many reactions a step uses up;
* `WorkspaceWatch.Session.freshAfter` — a fresh client with the base URL in force after some steps;
* `WorkspaceWatch.Session.alone` — the steps of a session, each with a fresh client.

Main results:

* `WorkspaceWatch.Client.exchange_take` — an exchange depends on the reaction it uses up alone;
* `WorkspaceWatch.Session.run_append` — what was done before a step is seen in the base URL and in
  the number of reactions that are left, and nowhere else;
* `WorkspaceWatch.Session.run_calls_alone` — **a session is its calls made apart**;
* `WorkspaceWatch.Session.valid_unsent` — below a host that cannot be named, nothing is sent.
-/

import Mathlib.Data.List.Forall2
import WorkspaceWatch.Proofs.Exchange
import WorkspaceWatch.Session

set_option autoImplicit false

namespace WorkspaceWatch

/-! ### One order -/

namespace Client

/-- Whether an order is sent: its URL can be built, has a host that can be named and a scheme that
the transport knows. -/
def sends (c : Client) (o : Order) : Bool :=
  match c.address o with
  | .ok url => url.headerFault?.isNone && knownSchemes.contains url.scheme
  | .error _ => false

theorem sends_eq_true_iff (c : Client) (o : Order) :
    c.sends o = true ↔ ∃ request, c.request o = .ok request := by
  unfold sends
  cases ha : c.address o with
  | error e => simp [request_of_address_error ha]
  | ok url =>
      rw [request_of_address ha]
      cases hfault : url.headerFault? with
      | some m => simp [hfault]
      | none => by_cases hscheme : url.scheme ∈ knownSchemes <;> simp [hfault, hscheme]

variable (c : Client) (o : Order) (reactions : List Reaction)

theorem isSome_request?_exchange : (c.exchange o reactions).request?.isSome = c.sends o := by
  rw [Bool.eq_iff_iff, sends_eq_true_iff]
  unfold exchange
  cases hq : c.request o with
  | error f => simp
  | ok request =>
      cases reactions with
      | nil => simp
      | cons reaction rest => cases reaction <;> simp

/-- An order that is sent uses up one reaction, any other none. -/
theorem exchange_rest_eq_drop :
    (c.exchange o reactions).rest = reactions.drop (c.sends o).toNat := by
  rw [exchange_rest, isSome_request?_exchange]
  cases c.sends o <;> rfl

/-- So does a call. -/
theorem run_rest_eq_drop {α : Type} (c : Client) (call : Call α) (reactions : List Reaction) :
    (c.run call reactions).rest = reactions.drop (c.sends call.order).toNat :=
  c.exchange_rest_eq_drop call.order reactions

/-- **An exchange depends on the reaction that it uses up alone.** -/
theorem exchange_take :
    c.exchange o (reactions.take (c.sends o).toNat) = { c.exchange o reactions with rest := [] } := by
  cases hs : c.sends o with
  | false =>
      -- without a request, no reaction is looked at
      obtain ⟨f, hf⟩ : ∃ f, c.request o = .error f := by
        cases hq : c.request o with
        | error f => exact ⟨f, rfl⟩
        | ok request =>
            have hsent := (c.sends_eq_true_iff o).2 ⟨request, hq⟩
            rw [hs] at hsent
            cases hsent
      simp [exchange, hf]
  | true =>
      obtain ⟨request, hrequest⟩ := (c.sends_eq_true_iff o).1 hs
      cases reactions with
      | nil => simp [exchange, hrequest]
      | cons reaction rest => cases reaction <;> simp [exchange, hrequest]

end Client

/-- A report without the reactions that were left. -/
def Report.spent {α : Type} (r : Report α) : Report α := { r with rest := [] }

namespace Session

/-! ### One step -/

/-- Whether a step sends a request. -/
def Step.sends (step : Step) (c : Client) : Bool := step.call?.any fun call => c.sends call.order

/-- How many reactions a step uses up. -/
def Step.uses (step : Step) (c : Client) : Nat := (step.sends c).toNat

section Report

variable (c : Client) (reactions : List Reaction) (step : Step)

/-- A step sends one request or none. -/
theorem isSome_request?_report : (report c reactions step).request?.isSome = step.sends c := by
  unfold report Step.sends
  cases step.call? with
  | none => rfl
  | some call => exact c.isSome_request?_exchange call.order reactions

theorem report_rest : (report c reactions step).rest = reactions.drop (step.uses c) := by
  unfold report Step.uses Step.sends
  cases step.call? with
  | none => rfl
  | some call => exact c.exchange_rest_eq_drop call.order reactions

/-- **A step depends on the reactions that it uses up alone**, whatever comes after them. -/
theorem report_take :
    report c (reactions.take (step.uses c)) step = (report c reactions step).spent := by
  unfold report Step.uses Step.sends
  cases step.call? with
  | none => rfl
  | some call =>
      have h := c.exchange_take call.order reactions
      simp only [Option.any_some, Client.run, Report.spent, h]

end Report

/-! ### The base URL in force -/

/-- The base URL that a step assigns. -/
def Step.assigned? : Step → Option String
  | .useBaseUrl url => some url
  | _ => none

/-- The base URL in force after some steps: the one that was assigned last, or else the client's. -/
def urlAfter (c : Client) (steps : List Step) : String :=
  (steps.filterMap Step.assigned?).getLast?.getD c.baseUrl

/-- A fresh client that has the base URL in force after some steps, and the same timeout. -/
def freshAfter (c : Client) (steps : List Step) : Client := ⟨urlAfter c steps, c.connectTimeout⟩

@[simp] theorem freshAfter_nil (c : Client) : freshAfter c [] = c := rfl

theorem clientAfter_eq_fresh (c : Client) (step : Step) :
    clientAfter c step = ⟨step.assigned?.getD c.baseUrl, c.connectTimeout⟩ := by
  cases step <;> rfl

theorem freshAfter_cons (c : Client) (step : Step) (steps : List Step) :
    freshAfter c (step :: steps) = freshAfter (clientAfter c step) steps := by
  rw [clientAfter_eq_fresh]
  cases h : step.assigned? with
  | none => simp [freshAfter, urlAfter, h]
  | some url => simp [freshAfter, urlAfter, h, List.getLast?_cons]

/-- The steps of a session, each with a fresh client that has the base URL then in force. -/
def alone (c : Client) (steps : List Step) : List (Client × Step) :=
  steps.mapIdx fun i step => (freshAfter c (steps.take i), step)

theorem alone_cons (c : Client) (step : Step) (steps : List Step) :
    alone c (step :: steps) = (c, step) :: alone (clientAfter c step) steps := by
  simp only [alone, List.mapIdx_cons, List.take_zero, freshAfter_nil, List.take_succ_cons,
    freshAfter_cons]

/-! ### Whole sessions -/

/-- How many reactions a session uses up: one for each step that is sent. -/
def used (c : Client) (steps : List Step) : Nat := (alone c steps).countP fun x => x.2.sends x.1

@[simp] theorem used_nil (c : Client) : used c [] = 0 := rfl

theorem used_cons (c : Client) (step : Step) (steps : List Step) :
    used c (step :: steps) = step.uses c + used (clientAfter c step) steps := by
  rw [used, alone_cons, List.countP_cons, Nat.add_comm, Step.uses]
  cases step.sends c <;> rfl

/-- **What was done before a step is seen in the base URL and in the number of reactions that are
left**, and nowhere else. -/
theorem run_append (c : Client) (reactions : List Reaction) (earlier later : List Step) :
    run c reactions (earlier ++ later) =
      run c reactions earlier ++
        run (freshAfter c earlier) (reactions.drop (used c earlier)) later := by
  induction earlier generalizing c reactions with
  | nil => simp [run]
  | cons step earlier ih =>
      have hused : reactions.drop (used c (step :: earlier)) =
          (report c reactions step).rest.drop (used (clientAfter c step) earlier) := by
        rw [used_cons, report_rest, List.drop_drop]
      rw [hused, freshAfter_cons]
      simp only [List.cons_append, run, ih]

/-- A session asks nothing but what its steps send. -/
theorem forall₂_sends_run (c : Client) (reactions : List Reaction) (steps : List Step) :
    List.Forall₂ (fun x r => r.request?.isSome = x.2.sends x.1) (alone c steps)
      (run c reactions steps) := by
  induction steps generalizing c reactions with
  | nil => exact .nil
  | cons step steps ih =>
      rw [alone_cons]
      exact .cons (isSome_request?_report c reactions step) (ih _ _)

/-- The reactions dealt out to the steps, in order. -/
def deal : List (Client × Step) → List Reaction → List (List Reaction)
  | [], _ => []
  | (c, step) :: more, reactions =>
    reactions.take (step.uses c) :: deal more (reactions.drop (step.uses c))

/-- Every step gets as many reactions as it uses up, if there are enough for all. -/
theorem forall₂_uses_deal {c : Client} {reactions : List Reaction} {steps : List Step}
    (h : used c steps ≤ reactions.length) :
    List.Forall₂ (fun x portion => portion.length = x.2.uses x.1) (alone c steps)
      (deal (alone c steps) reactions) := by
  induction steps generalizing c reactions with
  | nil => exact .nil
  | cons step steps ih =>
      rw [used_cons] at h
      rw [alone_cons]
      refine .cons ?_ (ih ?_)
      · exact List.length_take_of_le (by omega)
      · rw [List.length_drop]
        omega

/-- What is dealt out to the steps up to some one, and what that one leaves, are all reactions. -/
theorem flatten_take_deal_append_rest {c : Client} {reactions : List Reaction} {steps : List Step}
    {i : Nat} {r : Report Answer} (h : (run c reactions steps)[i]? = some r) :
    ((deal (alone c steps) reactions).take (i + 1)).flatten ++ r.rest = reactions := by
  induction steps generalizing c reactions i with
  | nil => simp [run] at h
  | cons step steps ih =>
      rw [alone_cons, deal, List.take_succ_cons, List.flatten_cons]
      cases i with
      | zero =>
          obtain rfl : report c reactions step = r := by simpa [run] using h
          rw [report_rest]
          simp
      | succ i =>
          have hlater : (run (clientAfter c step) (reactions.drop (step.uses c)) steps)[i]? =
              some r := by simpa [run, report_rest] using h
          rw [List.append_assoc, ih hlater, List.take_append_drop]

/-- The reports of a session are those of its steps, made apart with the reactions dealt out. -/
theorem map_spent_run (c : Client) (reactions : List Reaction) (steps : List Step) :
    (run c reactions steps).map Report.spent =
      ((alone c steps).zip (deal (alone c steps) reactions)).flatMap
        fun x => run x.1.1 x.2 [x.1.2] := by
  induction steps generalizing c reactions with
  | nil => rfl
  | cons step steps ih =>
      have hone : run c (reactions.take (step.uses c)) [step] =
          [(report c reactions step).spent] := by
        simp only [run, report_take]
      rw [alone_cons, deal, List.zip_cons_cons, List.flatMap_cons, hone, ← ih]
      simp [run, report_rest]

/-- **A session is its calls made apart.**  If the daemon has a reaction for every request, the
reactions can be dealt out in order so that each step gets exactly one if it sends a request and
none if it does not.  Each step sends one request or none; and the requests and results of the
session are, one after another, those of fresh clients that have the base URL then in force and
make one step each with just the reactions dealt out to it.  So whatever the daemon did before some
step, all later reports are the same. -/
theorem run_calls_alone {c : Client} {reactions : List Reaction} {steps : List Step}
    (h : used c steps ≤ reactions.length) :
    ∃ portions : List (List Reaction),
      List.Forall₂ (fun x portion => portion.length = if x.2.sends x.1 then 1 else 0)
        (alone c steps) portions ∧
      (∀ i r, (run c reactions steps)[i]? = some r →
        (portions.take (i + 1)).flatten ++ r.rest = reactions) ∧
      List.Forall₂ (fun x r => r.request?.toList.length = if x.2.sends x.1 then 1 else 0)
        (alone c steps) (run c reactions steps) ∧
      (run c reactions steps).map Report.spent =
        ((alone c steps).zip portions).flatMap (fun x => run x.1.1 x.2 [x.1.2]) ∧
      ∀ earlier later, steps = earlier ++ later → ∀ others : List Reaction,
        others.length = used c earlier →
          (run c (others ++ reactions.drop (used c earlier)) steps).drop earlier.length =
            (run c reactions steps).drop earlier.length := by
  have huses : ∀ b : Bool, b.toNat = if b then 1 else 0 := by decide
  refine ⟨deal (alone c steps) reactions, ?_, fun i r hr => flatten_take_deal_append_rest hr, ?_,
    map_spent_run c reactions steps, ?_⟩
  · refine (forall₂_uses_deal h).imp ?_
    intro x portion hportion
    rw [hportion, Step.uses, huses]
  · refine (forall₂_sends_run c reactions steps).imp ?_
    intro x r hr
    rw [← hr]
    cases r.request? <;> rfl
  · rintro earlier later rfl others hothers
    -- both rows of reactions go on alike after the earlier steps
    have hlater : (others ++ reactions.drop (used c earlier)).drop (used c earlier) =
        reactions.drop (used c earlier) := List.drop_left' hothers
    simp only [run_append, hlater]
    simp

/-- An order whose URL is valid and has a scheme that the transport knows is not sent if the host of
the URL cannot be named. -/
theorem valid_unsent :
    (∃ url, (⟨"http://xn--/", none⟩ : Client).address Call.fetch.order = .ok url ∧
      Client.knownSchemes.contains url.scheme = true) ∧
      (report ⟨"http://xn--/", none⟩ [.respond ⟨200, [], .empty⟩] .fetch).request? = none ∧
      (report ⟨"http://xn--/", none⟩ [.respond ⟨200, [], .empty⟩] .fetch).rest.length = 1 :=
  ⟨⟨_, rfl, rfl⟩, rfl, rfl⟩

/-- A session that changes its base URL twice, once for one whose scheme the transport does not
know. -/
def wandering : List Step :=
  [.fetch, .useBaseUrl "ftp://h", .resolve none, .useBaseUrl "http://h", .deleteTask "w" "t"]

/-- A redirect that sets a cookie takes the place of a failure, and the removal of a task after it
is made alike. -/
theorem run_calls_alone_wandering :
    used {} wandering = 2 ∧
      (run {} [.respond ⟨302, [("location", "/x"), ("set-cookie", "a=b")], .empty⟩,
          .respond ⟨204, [], .empty⟩] wandering).drop 4 =
        (run {} [.fail ⟨"ReadTimeout", ""⟩, .respond ⟨204, [], .empty⟩] wandering).drop 4 := by
  have hused : used {} wandering = 2 := by rfl
  have henough : used {} wandering ≤
      [Reaction.fail ⟨"ReadTimeout", ""⟩, .respond ⟨204, [], .empty⟩].length := by
    rw [hused]
    exact Nat.le_refl 2
  obtain ⟨-, -, -, -, -, hlater⟩ := run_calls_alone henough
  exact ⟨hused, hlater (wandering.take 4) (wandering.drop 4) rfl [.respond _] rfl⟩

end Session

end WorkspaceWatch
