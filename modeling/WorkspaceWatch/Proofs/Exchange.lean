/-
**What becomes of a request.**

A request that is made against a daemon with a reaction left has one of three ends: it fails on the
way, for exactly one reason; a response arrives, which is the one that the daemon gave, out of its
coding; or a host cannot be named, and nobody looks out for that.  The ends are described here
without following the exchange, and shown to be the only ones.

Main definitions:

* `WorkspaceWatch.Client.Fails` — an order fails on the way, for a reason;
* `WorkspaceWatch.Client.Receives` — a response to an order arrives;
* `WorkspaceWatch.Client.Escapes` — an order ends in a mishap that nobody looks out for.

Main results:

* `WorkspaceWatch.Client.exchange_eq_failure_iff`, `WorkspaceWatch.Client.exchange_eq_response_iff`,
  `WorkspaceWatch.Client.exchange_eq_escaped_iff` — **an exchange ends in a failure exactly if the
  order fails, in a response exactly if that response arrives, and in a mishap exactly if the order
  ends in it**;
* `WorkspaceWatch.Client.fails_or_receives_or_escapes` — there is no fourth end;
* `WorkspaceWatch.Client.Fails.run_result` and its neighbours — what a call that reads its success
  from the response makes of each end.
-/

import WorkspaceWatch.Daemon.Call
import WorkspaceWatch.Proofs.Schema

set_option autoImplicit false

namespace WorkspaceWatch

/-- A response that names no coding is taken as it is. -/
theorem Response.decoded_of_codings {r : Response} (h : r.codings = []) : r.decoded = .ok r := by
  rw [decoded, h]
  rfl

/-- A response that is brought out of its coding keeps its status. -/
theorem Response.status_of_decoded {raw response : Response} (h : raw.decoded = .ok response) :
    response.status = raw.status := by
  unfold decoded at h
  cases hbody : Coding.undoAll raw.codings raw.body with
  | error text =>
      rw [hbody] at h
      cases h
  | ok body =>
      rw [hbody] at h
      cases h
      rfl

namespace Client

/-! ### Requests -/

/-- The request of an order is decided by its address: by the faults of its host first, and by the
scheme after that. -/
theorem request_of_address {c : Client} {o : Order} {url : Url} (h : c.address o = .ok url) :
    c.request o = match url.headerFault? with
      | some m => .error (.escaped m)
      | none =>
        if knownSchemes.contains url.scheme then
          .ok ⟨o.method, url, o.body?.map Json.compact, c.connectTimeout⟩
        else .error (.failed (.scheme url.scheme)) := by
  unfold request
  rw [h]
  cases hfault : url.headerFault? with
  | some m => simp [Except.mapError, bind, Except.bind, hfault, throw, throwThe, MonadExceptOf.throw]
  | none =>
      simp [Except.mapError, bind, Except.bind, hfault, throw, throwThe, MonadExceptOf.throw, pure,
        Except.pure]

theorem request_of_address_error {c : Client} {o : Order} {e : UrlError}
    (h : c.address o = .error e) : c.request o = .error (.failed (.url e)) := by
  unfold request
  rw [h]
  rfl

/-- A request that is sent is made of its order and of what the client says, and its host can be
named. -/
theorem request_eq_ok_of {c : Client} {o : Order} {request : Request}
    (h : c.request o = .ok request) : ∃ url, c.address o = .ok url ∧ url.headerFault? = none ∧
      knownSchemes.contains url.scheme = true ∧
      request = ⟨o.method, url, o.body?.map Json.compact, c.connectTimeout⟩ := by
  cases ha : c.address o with
  | error e =>
      rw [request_of_address_error ha] at h
      cases h
  | ok url =>
      rw [request_of_address ha] at h
      split at h
      · cases h
      · next hfault =>
        split at h
        · next hscheme =>
          cases h
          exact ⟨url, rfl, hfault, hscheme, rfl⟩
        · cases h

/-- A request that is sent has the URL, the method and the body of its order. -/
theorem request_eq_ok {c : Client} {o : Order} {request : Request} (h : c.request o = .ok request) :
    c.address o = .ok request.url ∧ request.method = o.method ∧
      request.body? = o.body?.map Json.compact := by
  obtain ⟨url, ha, -, -, rfl⟩ := request_eq_ok_of h
  exact ⟨ha, rfl, rfl⟩

/-- An order ends in a mishap before it is sent exactly if its host cannot be named. -/
theorem request_eq_escaped_iff {c : Client} {o : Order} {m : Mishap} :
    c.request o = .error (.escaped m) ↔
      ∃ url, c.address o = .ok url ∧ url.headerFault? = some m := by
  cases ha : c.address o with
  | error e => simp [request_of_address_error ha]
  | ok url =>
      rw [request_of_address ha]
      cases hfault : url.headerFault? with
      | some m' => simp [hfault]
      | none =>
          simp only [Except.ok.injEq, exists_eq_left', hfault, reduceCtorEq, iff_false]
          split <;> simp

/-! ### The three ends -/

/-- An order fails on the way when the daemon's reaction is the given one: it cannot be sent, the
transport fails, the body is not in the coding that it is said to be in, or the response redirects
to something that is no URL. -/
inductive Fails (c : Client) (o : Order) : Reaction → SendFailure → Prop
  | unsendable {reaction : Reaction} {failure : SendFailure} :
      c.request o = .error (.failed failure) → Fails c o reaction failure
  | broken {request : Request} (mishap : Mishap) :
      c.request o = .ok request → Fails c o (.fail mishap) (.transport mishap)
  | garbled {request : Request} (raw : Response) {text : String} :
      c.request o = .ok request → raw.decoded = .error text → Fails c o (.respond raw) (.coding text)
  | astray {request : Request} (raw : Response) {response : Response} {location : String}
      {error : RedirectError} : c.request o = .ok request → raw.decoded = .ok response →
        response.location? = some location →
        request.url.redirect location = .error (.failed error) →
        Fails c o (.respond raw) (.redirect error)

/-- A response to an order arrives: the order is sent, the daemon gives the response, and if it
redirects then to a URL. -/
def Receives (c : Client) (o : Order) (reaction : Reaction) (response : Response) : Prop :=
  (∃ raw, reaction = .respond raw ∧ raw.decoded = .ok response) ∧
    ∃ request, c.request o = .ok request ∧
      ∀ location, response.location? = some location →
        ∃ target, request.url.redirect location = .ok target

/-- An order ends in a mishap that nobody looks out for: the host of its URL cannot be named, or the
response redirects to a host that cannot. -/
inductive Escapes (c : Client) (o : Order) : Reaction → Mishap → Prop
  | unnamed {reaction : Reaction} {url : Url} {mishap : Mishap} :
      c.address o = .ok url → url.headerFault? = some mishap → Escapes c o reaction mishap
  | astray {request : Request} (raw : Response) {response : Response} {location : String}
      {mishap : Mishap} : c.request o = .ok request → raw.decoded = .ok response →
        response.location? = some location →
        request.url.redirect location = .error (.escaped mishap) →
        Escapes c o (.respond raw) mishap

/-- What a response is judged by: its coding first, and where it redirects to after that. -/
theorem judge_of_decoded {raw response : Response} (h : raw.decoded = .ok response) (url : Url) :
    judge url raw = match response.location? with
      | none => .ok response
      | some location => match url.redirect location with
        | .ok _ => .ok response
        | .error (.failed e) => .error (.failed (.redirect e))
        | .error (.escaped m) => .error (.escaped m) := by
  unfold judge
  rw [h]
  cases hl : response.location? with
  | none => simp [Except.mapError, bind, Except.bind, hl, pure, Except.pure]
  | some location =>
      rcases hr : url.redirect location with (e | m) | target <;>
        simp [Except.mapError, bind, Except.bind, hl, hr, throw, throwThe, MonadExceptOf.throw, pure,
          Except.pure]

theorem judge_of_decoded_error {raw : Response} {text : String} (h : raw.decoded = .error text)
    (url : Url) : judge url raw = .error (.failed (.coding text)) := by
  unfold judge
  rw [h]
  rfl

theorem judge_eq_ok_iff (url : Url) (raw response : Response) :
    judge url raw = .ok response ↔ raw.decoded = .ok response ∧
      ∀ location, response.location? = some location →
        ∃ target, url.redirect location = .ok target := by
  cases hd : raw.decoded with
  | error text => simp [judge_of_decoded_error hd]
  | ok r =>
      rw [judge_of_decoded hd]
      cases hl : r.location? with
      | none =>
          simp only [Except.ok.injEq, iff_self_and]
          rintro rfl
          simp [hl]
      | some location =>
          rcases hr : url.redirect location with (e | m) | target
          · simp only [hr, reduceCtorEq, Except.ok.injEq, false_iff, not_and]
            rintro rfl hall
            simpa [hr] using hall location hl
          · simp only [hr, reduceCtorEq, Except.ok.injEq, false_iff, not_and]
            rintro rfl hall
            simpa [hr] using hall location hl
          · simp only [hr, Except.ok.injEq, iff_self_and]
            rintro rfl
            simp [hl, hr]

theorem judge_eq_failed_iff (url : Url) (raw : Response) (f : SendFailure) :
    judge url raw = .error (.failed f) ↔
      (∃ text, raw.decoded = .error text ∧ f = .coding text) ∨
      ∃ response location error, raw.decoded = .ok response ∧
        response.location? = some location ∧
        url.redirect location = .error (.failed error) ∧ f = .redirect error := by
  cases hd : raw.decoded with
  | error text => simp [judge_of_decoded_error hd, eq_comm]
  | ok r =>
      rw [judge_of_decoded hd]
      cases hl : r.location? with
      | none => simp [hl]
      | some location => rcases hr : url.redirect location with (e | m) | target <;>
          simp [hl, hr, eq_comm]

theorem judge_eq_escaped_iff (url : Url) (raw : Response) (m : Mishap) :
    judge url raw = .error (.escaped m) ↔
      ∃ response location, raw.decoded = .ok response ∧ response.location? = some location ∧
        url.redirect location = .error (.escaped m) := by
  cases hd : raw.decoded with
  | error text => simp [judge_of_decoded_error hd]
  | ok r =>
      rw [judge_of_decoded hd]
      cases hl : r.location? with
      | none => simp [hl]
      | some location => rcases hr : url.redirect location with (e | m) | target <;>
          simp [hl, hr, eq_comm]

theorem outcome_eq_response_iff (url : Url) (raw response : Response) :
    outcome url raw = .response response ↔ judge url raw = .ok response := by
  unfold outcome
  rcases judge url raw with (f | m) | r <;> simp [Outcome.ofBreak]

theorem outcome_eq_failure_iff (url : Url) (raw : Response) (f : SendFailure) :
    outcome url raw = .failure f ↔ judge url raw = .error (.failed f) := by
  unfold outcome
  rcases judge url raw with (f | m) | r <;> simp [Outcome.ofBreak]

theorem outcome_eq_escaped_iff (url : Url) (raw : Response) (m : Mishap) :
    outcome url raw = .escaped m ↔ judge url raw = .error (.escaped m) := by
  unfold outcome
  rcases judge url raw with (f | m) | r <;> simp [Outcome.ofBreak]

variable (c : Client) (o : Order) (reaction : Reaction) (rest : List Reaction)

/-- **An exchange ends in a failure exactly if the order fails for that reason.** -/
theorem exchange_eq_failure_iff (f : SendFailure) :
    (c.exchange o (reaction :: rest)).outcome = .failure f ↔ c.Fails o reaction f := by
  -- along the exchange: the request is built, the daemon reacts, the response is judged
  unfold exchange
  rcases hq : c.request o with (e | m) | request
  · constructor
    · intro h
      cases h
      exact .unsendable hq
    · intro h
      cases h <;> simp_all [Outcome.ofBreak]
  · constructor
    · intro h
      cases h
    · intro h
      cases h <;> simp_all
  · cases reaction with
    | fail m =>
        constructor
        · intro h
          cases h
          exact .broken m hq
        · intro h
          cases h <;> simp_all
    | respond raw =>
        simp only [outcome_eq_failure_iff, judge_eq_failed_iff]
        constructor
        · rintro (⟨text, hd, rfl⟩ | ⟨response, location, error, hd, hl, he, rfl⟩)
          · exact .garbled raw hq hd
          · exact .astray raw hq hd hl he
        · intro h
          cases h <;> simp_all

/-- **An exchange ends in a response exactly if that response arrives.** -/
theorem exchange_eq_response_iff (r : Response) :
    (c.exchange o (reaction :: rest)).outcome = .response r ↔ c.Receives o reaction r := by
  unfold exchange Receives
  rcases hq : c.request o with (e | m) | request
  · simp [Outcome.ofBreak]
  · simp [Outcome.ofBreak]
  · cases reaction with
    | fail m => simp
    | respond raw => simp [outcome_eq_response_iff, judge_eq_ok_iff]

/-- **An exchange ends in a mishap exactly if the order ends in it.** -/
theorem exchange_eq_escaped_iff (m : Mishap) :
    (c.exchange o (reaction :: rest)).outcome = .escaped m ↔ c.Escapes o reaction m := by
  unfold exchange
  rcases hq : c.request o with (e | m') | request
  · constructor
    · intro h
      cases h
    · intro h
      cases h with
      | unnamed ha hfault => simp [request_eq_escaped_iff.2 ⟨_, ha, hfault⟩] at hq
      | astray raw hq' => simp_all
  · constructor
    · intro h
      cases h
      obtain ⟨url, ha, hfault⟩ := request_eq_escaped_iff.1 hq
      exact .unnamed ha hfault
    · intro h
      cases h with
      | unnamed ha hfault =>
          rw [request_eq_escaped_iff.2 ⟨_, ha, hfault⟩] at hq
          cases hq
          rfl
      | astray raw hq' => simp_all
  · have hsent : ∀ url, c.address o = .ok url → url.headerFault? ≠ some m := by
      intro url ha hfault
      rw [request_eq_escaped_iff.2 ⟨url, ha, hfault⟩] at hq
      cases hq
    cases reaction with
    | fail m' =>
        constructor
        · intro h
          cases h
        · intro h
          cases h with
          | unnamed ha hfault => exact absurd hfault (hsent _ ha)
    | respond raw =>
        simp only [outcome_eq_escaped_iff, judge_eq_escaped_iff]
        constructor
        · rintro ⟨response, location, hd, hl, hr⟩
          exact .astray raw hq hd hl hr
        · intro h
          cases h with
          | unnamed ha hfault => exact absurd hfault (hsent _ ha)
          | astray raw hq' hd hl hr =>
              rw [hq'] at hq
              cases hq
              exact ⟨_, _, hd, hl, hr⟩

theorem exchange_ne_exhausted : (c.exchange o (reaction :: rest)).outcome ≠ .exhausted := by
  unfold exchange
  rcases c.request o with (e | m) | request
  · simp [Outcome.ofBreak]
  · simp [Outcome.ofBreak]
  · cases reaction with
    | fail m => simp
    | respond raw =>
        simp only [outcome]
        rcases judge request.url raw with (f | m) | r <;> simp [Outcome.ofBreak]

/-- **An order fails, its response arrives, or it ends in a mishap**; there is no fourth end. -/
theorem fails_or_receives_or_escapes : (∃ f, c.Fails o reaction f) ∨
    (∃ r, c.Receives o reaction r) ∨ ∃ m, c.Escapes o reaction m := by
  cases h : (c.exchange o [reaction]).outcome with
  | exhausted => exact absurd h (c.exchange_ne_exhausted o reaction [])
  | failure f => exact .inl ⟨f, (c.exchange_eq_failure_iff o reaction [] f).1 h⟩
  | response r => exact .inr (.inl ⟨r, (c.exchange_eq_response_iff o reaction [] r).1 h⟩)
  | escaped m => exact .inr (.inr ⟨m, (c.exchange_eq_escaped_iff o reaction [] m).1 h⟩)

/-- A response that reports success does not redirect, so it arrives if its request is sent. -/
theorem receives_of_success {c : Client} {o : Order} {request : Request}
    (h : c.request o = .ok request) {raw response : Response} (hdecoded : raw.decoded = .ok response)
    (hstatus : 200 ≤ response.status ∧ response.status ≤ 299) :
    c.Receives o (.respond raw) response := by
  have hlocation : response.location? = none := by
    rw [Response.location?, if_neg]
    simp only [List.contains_eq_mem, List.mem_cons, List.not_mem_nil, or_false, decide_eq_true_eq]
    omega
  refine ⟨⟨raw, rfl, hdecoded⟩, request, h, ?_⟩
  rw [hlocation]
  simp

variable {c o reaction}

/-- An order does not both fail and get its response. -/
theorem Fails.not_receives {f : SendFailure} (hf : c.Fails o reaction f) (r : Response) :
    ¬c.Receives o reaction r := by
  intro hr
  have h₁ := (c.exchange_eq_failure_iff o reaction [] f).2 hf
  have h₂ := (c.exchange_eq_response_iff o reaction [] r).2 hr
  rw [h₁] at h₂
  cases h₂

/-- An order fails for one reason only. -/
theorem Fails.unique {f g : SendFailure} (hf : c.Fails o reaction f) (hg : c.Fails o reaction g) :
    f = g := by
  have h₁ := (c.exchange_eq_failure_iff o reaction [] f).2 hf
  have h₂ := (c.exchange_eq_failure_iff o reaction [] g).2 hg
  rw [h₁] at h₂
  cases h₂
  rfl

theorem Receives.unique {r r' : Response} (hr : c.Receives o reaction r)
    (hr' : c.Receives o reaction r') : r = r' := by
  have h₁ := (c.exchange_eq_response_iff o reaction [] r).2 hr
  have h₂ := (c.exchange_eq_response_iff o reaction [] r').2 hr'
  rw [h₁] at h₂
  cases h₂
  rfl

/-- The response that arrives is the one that the daemon gave, out of its coding. -/
theorem Receives.eq_of_decoded {raw response r : Response} (h : c.Receives o (.respond raw) r)
    (hraw : raw.decoded = .ok response) : r = response := by
  obtain ⟨⟨raw', hreaction, hdecoded⟩, -⟩ := h
  cases hreaction
  exact Except.ok.inj (hdecoded.symm.trans hraw)

/-- An order that ends in a mishap has neither of the other ends. -/
theorem Escapes.not_receives {m : Mishap} (hm : c.Escapes o reaction m) (r : Response) :
    ¬c.Receives o reaction r := by
  intro hr
  have h₁ := (c.exchange_eq_escaped_iff o reaction [] m).2 hm
  have h₂ := (c.exchange_eq_response_iff o reaction [] r).2 hr
  rw [h₁] at h₂
  cases h₂

theorem Escapes.not_fails {m : Mishap} (hm : c.Escapes o reaction m) (f : SendFailure) :
    ¬c.Fails o reaction f := by
  intro hf
  have h₁ := (c.exchange_eq_escaped_iff o reaction [] m).2 hm
  have h₂ := (c.exchange_eq_failure_iff o reaction [] f).2 hf
  rw [h₁] at h₂
  cases h₂

/-- An order ends in one mishap only. -/
theorem Escapes.unique {m m' : Mishap} (hm : c.Escapes o reaction m)
    (hm' : c.Escapes o reaction m') : m = m' := by
  have h₁ := (c.exchange_eq_escaped_iff o reaction [] m).2 hm
  have h₂ := (c.exchange_eq_escaped_iff o reaction [] m').2 hm'
  rw [h₁] at h₂
  cases h₂
  rfl

end Client

/-! ### What a call makes of it -/

/-- A call draws its conclusion from the outcome of its order. -/
theorem Client.run_result {α : Type} (c : Client) (call : Call α) (reactions : List Reaction) :
    (c.run call reactions).result = (call.conclude (c.exchange call.order reactions).outcome).1 :=
  rfl

/-- The request of a call is that of its order. -/
theorem Client.request_of_mem_run {α : Type} {c : Client} {call : Call α}
    {reactions : List Reaction} {request : Request}
    (h : request ∈ (c.run call reactions).request?) : c.request call.order = .ok request := by
  have hexchange : (c.exchange call.order reactions).request? = some request := h
  unfold exchange at hexchange
  cases hq : c.request call.order with
  | error f => simp [hq] at hexchange
  | ok sent =>
      rw [hq] at hexchange
      cases reactions with
      | nil => exact congrArg _ (Option.some.inj hexchange)
      | cons reaction rest => cases reaction <;> exact congrArg _ (Option.some.inj hexchange)

/-- A call that gets its response uses up one reaction. -/
theorem Client.Receives.run_rest {α : Type} {c : Client} {call : Call α} {reaction : Reaction}
    {r : Response} (h : c.Receives call.order reaction r) (rest : List Reaction) :
    (c.run call (reaction :: rest)).rest = rest := by
  obtain ⟨⟨raw, rfl, -⟩, request, hrequest, -⟩ := h
  have hexchange : (c.run call (.respond raw :: rest)).rest =
      (c.exchange call.order (.respond raw :: rest)).rest := rfl
  rw [hexchange, exchange, hrequest]

section Concluding

variable {α : Type} {c : Client} {call : Call α} {read : Response → Except ApiError α}
  {reaction : Reaction}

/-- A call whose order fails says why. -/
theorem Client.Fails.run_result (hcall : call.conclude = Call.concluding read) {f : SendFailure}
    (h : c.Fails call.order reaction f) (rest : List Reaction) :
    (c.run call (reaction :: rest)).result = .error (.api (.unsent f)) := by
  rw [Client.run_result, (c.exchange_eq_failure_iff _ reaction rest f).2 h, hcall]
  rfl

/-- A call that is answered with success reads the response. -/
theorem Client.Receives.run_result_of_isSuccess (hcall : call.conclude = Call.concluding read)
    {r : Response} (h : c.Receives call.order reaction r) (hr : r.isSuccess = true)
    (rest : List Reaction) :
    (c.run call (reaction :: rest)).result = (read r).mapError .api := by
  rw [Client.run_result, (c.exchange_eq_response_iff _ reaction rest r).2 h, hcall]
  simp [Call.concluding, hr]

/-- A call whose order ends in a mishap ends in it. -/
theorem Client.Escapes.run_result (hcall : call.conclude = Call.concluding read) {m : Mishap}
    (h : c.Escapes call.order reaction m) (rest : List Reaction) :
    (c.run call (reaction :: rest)).result = .error (.escaped m) := by
  rw [Client.run_result, (c.exchange_eq_escaped_iff _ reaction rest m).2 h, hcall]
  rfl

/-- A call whose request is sent and answered with success has the value that is read. -/
theorem Client.run_result_of_success (hcall : call.conclude = Call.concluding read) {c : Client}
    {request : Request} (hrequest : c.request call.order = .ok request) {raw response : Response}
    (hdecoded : raw.decoded = .ok response)
    (hstatus : 200 ≤ response.status ∧ response.status ≤ 299) {x : α}
    (hread : read response = .ok x) (rest : List Reaction) :
    (c.run call (.respond raw :: rest)).result = .ok x := by
  have hreceives := receives_of_success hrequest hdecoded hstatus
  have hsuccess : response.isSuccess = true := by simpa [Response.isSuccess] using hstatus
  rw [hreceives.run_result_of_isSuccess hcall hsuccess rest, hread]
  rfl

/-- A call that is answered otherwise says with which status, and gives the daemon's reason. -/
theorem Client.Receives.run_result_of_not_isSuccess (hcall : call.conclude = Call.concluding read)
    {r : Response} (h : c.Receives call.order reaction r) (hr : r.isSuccess = false)
    (rest : List Reaction) :
    (c.run call (reaction :: rest)).result =
      .error (.api (.refused r.status (Call.refusalReason? r.body))) := by
  rw [Client.run_result, (c.exchange_eq_response_iff _ reaction rest r).2 h, hcall]
  simp [Call.concluding, hr]

end Concluding

end WorkspaceWatch
