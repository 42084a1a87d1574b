/-
**Base URLs with a slash at the end, and without one.**

A base URL without a slash at the end of its path is put together anew to get one; with one, it is
taken as it was read.  After that both have the same path, and the URLs below them are the same,
since an authority that was read again is read as before.  So a session with the one is a session
with the other.  The one exception is a host that cannot be read again: then the base URL without a
slash fails right away, the one with a slash only after the path of an order was read.  Nothing is
sent by either, but a path that makes no URL itself is blamed in the one and not in the other.

Main definitions:

* `WorkspaceWatch.BaseText.client`, `WorkspaceWatch.BaseText.slashedClient` — the two clients;
* `WorkspaceWatch.BaseText.IsRereadable` — a base URL has no path, or its host can be read again;
* `WorkspaceWatch.Order.below` — the URL of an order, once the base URL is known;
* `WorkspaceWatch.Session.Step.Agrees` — reports that may differ in what is blamed, and in nothing
  else.

Main results:

* `WorkspaceWatch.BaseText.address_slashed` — **with a slash and without, all URLs of orders are the
  same**, if the base URL can be put together again;
* `WorkspaceWatch.BaseText.address_fetch` — the URL that all workspaces are asked for at;
* `WorkspaceWatch.Session.run_slashed` — **a slash at the end of the base URL does not matter**.
-/

import Mathlib.Data.List.Forall2
import WorkspaceWatch.Proofs.BaseUrl
import WorkspaceWatch.Proofs.Origin

set_option autoImplicit false

namespace WorkspaceWatch

/-! ### Orders below a base URL -/

/-- The URL of an order, once the base URL is known. -/
def Order.below (o : Order) (base : Url) : Except UrlError Url := do
  let path ← Url.parse o.path
  let u ← base.withTarget (base.target ++ path.target.dropWhile (· == '/'))
  match o.query? with
  | none => return u
  | some query => u.withQuery query

theorem Client.address_eq_bind (c : Client) (o : Order) : c.address o = c.base.bind o.below := by
  unfold address
  cases c.base <;> rfl

/-- An order sees the target of the base URL, and what comes of it with another one. -/
theorem Order.below_congr {base base' : Url} (htarget : base'.target = base.target)
    (hwith : ∀ target, base'.withTarget target = base.withTarget target) (o : Order) :
    o.below base' = o.below base := by
  unfold Order.below
  simp only [htarget, hwith]

namespace Url

/-- A URL with a path and without a query has its path as its target. -/
theorem target_of_path {u : Url} (hpath : u.path ≠ []) (hquery : u.query = none) :
    u.target = u.path := by
  rw [target, if_neg (by simpa using hpath), hquery]
  exact List.append_nil _

variable {u : Url} (hu : u.IsBase)
include hu

/-- The path of a base URL leaves room for another one behind it. -/
theorem IsBase.length_append_le {cs : List Char} (h : cs.length ≤ 5001) :
    (u.path ++ cs).length ≤ maxLength := by
  have hpath := hu.path
  rw [List.length_append, maxLength]
  omega

theorem IsBase.target_withSlash : u.withSlash.target = u.path ++ ['/'] :=
  target_of_path (by simp [withSlash]) hu.query

/-- **An order whose path is in its final form is below the base URL with just that path.** -/
theorem IsBase.below_of_isFinal (hhost : u.isMisread = false) {o : Order} (hquery : o.query? = none)
    {own : Url} (hown : Url.parse o.path = .ok own) {cs : List Char} (htarget : own.target = '/' :: cs)
    (hhead : cs.head? ≠ some '/') (hfinal : IsFinal cs) (hshort : cs.length ≤ 5000) :
    o.below u.withSlash = .ok { u.normal with path := u.path ++ '/' :: cs } := by
  have hdrop : ('/' :: cs).dropWhile (· == '/') = cs := by
    rw [List.dropWhile_cons_of_pos (by rfl)]
    cases cs with
    | nil => rfl
    | cons c rest => exact List.dropWhile_cons_of_neg (by simpa using hhead)
  have hpath : IsFinal (u.path ++ '/' :: cs) := by
    have hdirectory := hu.final.directory.directory_append hfinal
    rwa [hu.directory_eq, List.append_assoc] at hdirectory
  have hlength : (u.path ++ '/' :: cs).length ≤ maxLength :=
    hu.length_append_le (Nat.succ_le_succ hshort)
  have hwith : u.withSlash.withTarget (u.path ++ ['/'] ++ cs) =
      .ok { u.normal with path := u.path ++ '/' :: cs } := by
    rw [List.append_assoc]
    exact hu.withTarget_eq hhost (head?_append_slash hu.begins cs) hpath hlength
  unfold Order.below
  simp only [hown, htarget, hdrop, hu.target_withSlash, hwith, hquery, bind, Except.bind]
  rfl

/-- An order below a misread host fails, by its own path or by the host. -/
theorem IsBase.below_of_isMisread (hhost : u.isMisread = true) (o : Order) :
    ∃ e, o.below u.withSlash = .error e ∧
      (e = .address4 u.hostText ∨ Url.parse o.path = .error e ∨ ∃ part, e = .partTooLong part) := by
  unfold Order.below
  cases hown : Url.parse o.path with
  | error e => exact ⟨e, rfl, .inr (.inl rfl)⟩
  | ok own =>
      simp only [withTarget_eq_rebuild, bind, Except.bind]
      rw [hu.spelled.rebuild_of_isMisread hhost rfl rfl]
      refine ⟨_, rfl, ?_⟩
      generalize Parts.tooLong? _ = part?
      cases part? with
      | none => exact .inl rfl
      | some part => exact .inr (.inr ⟨part, rfl⟩)

/-- If its own path is fine, it fails by the host. -/
theorem IsBase.below_of_short (hhost : u.isMisread = true) {o : Order} {own : Url}
    (hown : Url.parse o.path = .ok own) (hshort : own.target.length ≤ 5000) :
    o.below u.withSlash = .error (.address4 u.hostText) := by
  have hdrop := (List.dropWhile_suffix (l := own.target) (· == '/')).length_le
  have hlength : (u.withSlash.target ++ own.target.dropWhile (· == '/')).length ≤ maxLength := by
    rw [hu.target_withSlash, List.append_assoc]
    exact hu.length_append_le (Nat.succ_le_succ (Nat.le_trans hdrop hshort))
  have hwith : ∀ target, u.withSlash.withTarget target = u.withTarget target := fun _ => rfl
  unfold Order.below
  simp only [hown, hwith, hu.withTarget_of_isMisread hhost hlength, bind, Except.bind]

end Url

namespace Client

open Url

variable {c : Client} {u : Url}

theorem address_of_error {e : UrlError} (h : parse c.baseUrl = .error e) (o : Order) :
    c.address o = .error e := by
  rw [address_eq_bind, base, h]
  rfl

theorem base_of_withSlash (hu : u.IsBase) (h : parse c.baseUrl = .ok u.withSlash) :
    c.base = .ok u.withSlash := by
  unfold base
  rw [h]
  simp only [bind, Except.bind, pure, Except.pure]
  rw [if_pos (by rw [hu.target_withSlash]; simp)]

theorem base_of_root (hu : u.IsBase) (h : parse c.baseUrl = .ok u) (hpath : u.path = []) :
    c.base = .ok u := by
  have htarget : u.target = ['/'] := by simp [target, hpath, hu.query, marked]
  unfold base
  rw [h]
  simp only [bind, Except.bind, pure, Except.pure]
  rw [if_pos (by rw [htarget]; rfl)]

theorem base_of_path (hu : u.IsBase) (h : parse c.baseUrl = .ok u) (hpath : u.path ≠ []) :
    c.base = u.withTarget (u.path ++ ['/']) := by
  have htarget := target_of_path hpath hu.query
  unfold base
  rw [h]
  simp only [bind, Except.bind, pure, Except.pure]
  rw [if_neg (by rw [htarget]; exact hu.isOpen), htarget]

/-- The base URL without a slash is put together anew to get one. -/
theorem base_of_isMisread_eq_false (hu : u.IsBase) (h : parse c.baseUrl = .ok u)
    (hpath : u.path ≠ []) (hhost : u.isMisread = false) : c.base = .ok u.normal.withSlash := by
  rw [base_of_path hu h hpath]
  exact hu.withTarget_eq hhost (head?_append_slash hu.begins []) hu.final.append_slash
    (hu.length_append_le (by decide))

theorem base_of_isMisread (hu : u.IsBase) (h : parse c.baseUrl = .ok u) (hpath : u.path ≠ [])
    (hhost : u.isMisread = true) : c.base = .error (.address4 u.hostText) := by
  rw [base_of_path hu h hpath]
  exact hu.withTarget_of_isMisread hhost (hu.length_append_le (by decide))

end Client

namespace BaseText

open Url

variable (t : BaseText) (timeout : Option Binary64)

/-- A client with the base URL as it is. -/
def client : Client := ⟨t.url, timeout⟩

/-- A client with a slash at the end of the base URL. -/
def slashedClient : Client := ⟨t.slashed, timeout⟩

/-- A base URL that can be put together again, or needs not be, since it has no path. -/
def IsRereadable : Prop :=
  t.path = [] ∨ ∀ u, Url.parse t.url = .ok u → u.isMisread = false

variable {t}

/-- A base URL is read with a path exactly if it has one. -/
theorem path_eq_nil_iff {u : Url} (h : parse t.url = .ok u) : u.path = [] ↔ t.path = [] := by
  have hescaped : u.path = percentEncode keepsPath t.path := (t.isNormal_normal h).path
  rw [hescaped]
  cases hp : t.path with
  | nil => exact Iff.rfl
  | cons c rest =>
      obtain rfl : c = '/' := t.pathBegins c (by rw [hp]; rfl)
      rw [percentEncode_cons_of_keep (by decide)]
      simp

/-- With a slash, orders are below the URL with a slash. -/
theorem address_slashedClient {u : Url} (h : parse t.url = .ok u) (o : Order) :
    (t.slashedClient timeout).address o = o.below u.withSlash := by
  have hslashed : parse t.slashed = .ok u.withSlash := by
    rw [t.parse_slashed, h]
    rfl
  rw [Client.address_eq_bind,
    Client.base_of_withSlash (c := t.slashedClient timeout) (t.isBase h) hslashed]
  rfl

/-- They fail if the base URL does. -/
theorem address_slashedClient_of_error {e : UrlError} (h : parse t.url = .error e) (o : Order) :
    (t.slashedClient timeout).address o = .error e := by
  have hslashed : parse t.slashed = .error e := by
    rw [t.parse_slashed, h]
    rfl
  exact Client.address_of_error (c := t.slashedClient timeout) hslashed o

/-- **With a slash and without, all URLs of orders are the same**, if the base URL can be put
together again. -/
theorem address_slashed (ht : t.IsRereadable) (o : Order) :
    (t.slashedClient timeout).address o = (t.client timeout).address o := by
  cases hparse : parse t.url with
  | error e =>
      rw [address_slashedClient_of_error timeout hparse,
        Client.address_of_error (c := t.client timeout) hparse]
  | ok u =>
      have hu := t.isBase hparse
      rw [address_slashedClient timeout hparse, Client.address_eq_bind]
      by_cases hpath : u.path = []
      · -- a path that is missing stands for the slash anyway
        have htarget : u.withSlash.target = u.target := by
          rw [hu.target_withSlash, target, hpath, hu.query]
          rfl
        rw [Client.base_of_root (c := t.client timeout) hu hparse hpath]
        exact Order.below_congr htarget (fun _ => rfl) o
      · have hhost : u.isMisread = false :=
          ht.resolve_left (fun hnil => hpath ((path_eq_nil_iff hparse).2 hnil)) u hparse
        have hsettled : u.IsSettled := ⟨hu.spelled, hhost, hu.port⟩
        have hshort := Nat.le_trans u.length_authority_normal_le hu.authority
        have htarget : u.withSlash.target = u.normal.withSlash.target := rfl
        rw [Client.base_of_isMisread_eq_false (c := t.client timeout) hu hparse hpath hhost]
        exact Order.below_congr htarget (withTarget_congr (u := u.normal) (v := u) rfl rfl hshort
          hu.authority hsettled.readAuthority_normal.symm) o

/-- If it cannot, no order has a URL: without a slash that is the host's fault. -/
theorem address_of_isMisread {u : Url} (h : parse t.url = .ok u) (hpath : t.path ≠ [])
    (hhost : u.isMisread = true) (o : Order) :
    (t.client timeout).address o = .error (.address4 u.hostText) := by
  have hbase := Client.base_of_isMisread (c := t.client timeout) (t.isBase h) h
    (fun hnil => hpath ((path_eq_nil_iff h).1 hnil)) hhost
  rw [Client.address_eq_bind, hbase]
  rfl

/-- **A base URL whose authority is ASCII can be put together again.** -/
theorem isRereadable_of_ascii (h : ∀ c ∈ t.authority, isAscii c = true) : t.IsRereadable := by
  refine .inr fun u hu => ?_
  obtain ⟨a, ha, rfl⟩ := t.exists_authority hu
  obtain ⟨-, hhost, -⟩ := readAuthority_eq_ok ha
  have hascii : ∀ c ∈ (cutHost t.authority).2.1, isAscii c = true := by
    intro c hc
    rw [cutHost_eq] at hc
    exact h c (mem_of_mem_cutUser (mem_of_mem_cutPort hc))
  exact isMisread_of_hostOf hhost hascii

theorem exists_misread (ht : ¬t.IsRereadable) :
    ∃ u, parse t.url = .ok u ∧ t.path ≠ [] ∧ u.isMisread = true := by
  simp only [IsRereadable, not_or, not_forall, Bool.not_eq_false] at ht
  obtain ⟨hpath, u, hparse, hhost⟩ := ht
  exact ⟨u, hparse, hpath, hhost⟩

/-- With a slash, all workspaces are asked for right behind the base URL, if they are asked for. -/
theorem address_fetch_slashed {url : Url}
    (h : (t.slashedClient timeout).address Call.fetch.order = .ok url) :
    ∃ u, parse t.url = .ok u ∧ url = { u.normal with path := u.path ++ "/workspaces/".toList } := by
  have hown : parse Call.fetch.order.path =
      .ok ⟨"", "", "", none, "/workspaces/".toList, none, none⟩ := by rfl
  cases hparse : parse t.url with
  | error e =>
      rw [address_slashedClient_of_error timeout hparse] at h
      cases h
  | ok u =>
      have hu := t.isBase hparse
      rw [address_slashedClient timeout hparse] at h
      cases hhost : u.isMisread with
      | true =>
          rw [hu.below_of_short hhost hown (by decide)] at h
          cases h
      | false =>
          have htarget : Url.target ⟨"", "", "", none, "/workspaces/".toList, none, none⟩ =
              '/' :: "workspaces/".toList := by rfl
          have hfinal : IsFinal "workspaces/".toList :=
            ⟨List.all_iff_forall_prop.1 (by decide), List.all_iff_forall_prop.1 (by decide)⟩
          rw [hu.below_of_isFinal hhost rfl hown htarget (by decide) hfinal (by decide)] at h
          exact ⟨u, rfl, (Except.ok.inj h).symm⟩

/-- **All workspaces are asked for right behind the base URL**, if they are asked for. -/
theorem address_fetch {c : Client} (hc : c.baseUrl = t.url ∨ c.baseUrl = t.slashed) {url : Url}
    (h : c.address Call.fetch.order = .ok url) :
    ∃ u, parse t.url = .ok u ∧ url = { u.normal with path := u.path ++ "/workspaces/".toList } := by
  obtain ⟨baseUrl, timeout⟩ := c
  rcases hc with rfl | rfl
  · have hbare : (t.client timeout).address Call.fetch.order = .ok url := h
    by_cases ht : t.IsRereadable
    · rw [← address_slashed timeout ht] at hbare
      exact address_fetch_slashed timeout hbare
    · obtain ⟨u, hparse, hpath, hhost⟩ := exists_misread ht
      rw [address_of_isMisread timeout hparse hpath hhost] at hbare
      cases hbare
  · exact address_fetch_slashed timeout h

end BaseText

/-! ### Sessions -/

/-- What is put behind the path of a URL is put behind its text. -/
theorem Url.text_append {u : Url} (hquery : u.query = none) (hfragment : u.fragment = none)
    (cs : List Char) : ({ u with path := u.path ++ cs } : Url).text = u.text ++ .ofList cs := by
  simp only [Url.text, hquery, hfragment, Url.marked, List.append_nil, String.ofList_append,
    String.append_assoc]
  rfl

namespace Client

variable {α : Type} {c d : Client} {call : Call α}

/-- A call sees of its client the URL of its order and the timeout. -/
theorem run_congr (htimeout : d.connectTimeout = c.connectTimeout)
    (h : d.address call.order = c.address call.order) (reactions : List Reaction) :
    d.run call reactions = c.run call reactions := by
  have hrequest : d.request call.order = c.request call.order := by
    unfold request
    rw [h, htimeout]
  unfold run exchange
  rw [hrequest]

/-- A call whose order has no URL concludes from that alone. -/
theorem run_of_address_error {e : UrlError} (h : c.address call.order = .error e)
    (reactions : List Reaction) :
    c.run call reactions =
      ⟨(call.conclude (.failure (.url e))).1, none, (call.conclude (.failure (.url e))).2,
        reactions⟩ := by
  unfold run exchange
  rw [request_of_address_error h]
  rfl

end Client

namespace Session

/-- Reports of a step that are the same, or that both say that nothing was sent: one because the
host of the base URL cannot be read again, the other because the step's own path makes no URL, alone
or behind that of the base URL. -/
inductive Step.Agrees (t : BaseText) (step : Step) : Report Answer → Report Answer → Prop
  | same (r : Report Answer) : Agrees t step r r
  | unsent {u : Url} {call : Call Answer} {e : UrlError} (rest : List Reaction) :
      Url.parse t.url = .ok u → u.isMisread = true → step.call? = some call →
        (Url.parse call.order.path = .error e ∨ ∃ part, e = .partTooLong part) →
          Agrees t step ⟨.error (.api (.unsent (.url (.address4 u.hostText)))), none, [], rest⟩
            ⟨.error (.api (.unsent (.url e))), none, [], rest⟩

theorem Step.Agrees.rest_eq {t : BaseText} {step : Step} {r r' : Report Answer}
    (h : step.Agrees t r r') : r'.rest = r.rest := by
  cases h with
  | same => rfl
  | unsent => rfl

/-- A call has a fixed path, or reports an order that has no URL as just that. -/
theorem short_or_unsent {step : Step} {call : Call Answer} (h : step.call? = some call) :
    (∃ own, Url.parse call.order.path = .ok own ∧ own.target.length ≤ 5000) ∨
      ∀ f, call.conclude (.failure f) = (.error (.api (.unsent f)), []) := by
  have hlist : ∃ own, Url.parse "/workspaces/" = .ok own ∧ own.target.length ≤ 5000 :=
    ⟨⟨"", "", "", none, "/workspaces/".toList, none, none⟩, by rfl, by decide⟩
  have hcreate : ∃ own, Url.parse "/workspaces" = .ok own ∧ own.target.length ≤ 5000 :=
    ⟨⟨"", "", "", none, "/workspaces".toList, none, none⟩, by rfl, by decide⟩
  cases step with
  | fetch =>
      cases h
      exact .inl hlist
  | resolve path =>
      cases h
      exact .inl hlist
  | createWorkspace w =>
      cases h
      exact .inl hcreate
  | useBaseUrl url => cases h
  | _ =>
      cases h
      exact .inr fun _ => rfl

section Slashed

variable (t : BaseText) (timeout : Option Binary64)

/-- One step reports the same with a slash and without, but for what is blamed. -/
theorem report_agrees (reactions : List Reaction) (step : Step) :
    step.Agrees t (report (t.client timeout) reactions step)
      (report (t.slashedClient timeout) reactions step) := by
  cases hcall : step.call? with
  | none =>
      have hreport : ∀ c : Client, report c reactions step = ⟨.ok .nothing, none, [], reactions⟩ := by
        intro c
        rw [report, hcall]
      rw [hreport, hreport]
      exact .same _
  | some call =>
      have hreport : ∀ c : Client, report c reactions step = c.run call reactions := by
        intro c
        rw [report, hcall]
      rw [hreport, hreport]
      by_cases ht : t.IsRereadable
      · have hsame := Client.run_congr (c := t.client timeout) (d := t.slashedClient timeout) rfl
          (BaseText.address_slashed timeout ht call.order) reactions
        rw [hsame]
        exact .same _
      · obtain ⟨u, hparse, hpath, hhost⟩ := BaseText.exists_misread ht
        have hbare := BaseText.address_of_isMisread timeout hparse hpath hhost call.order
        have hslashed := BaseText.address_slashedClient timeout hparse call.order
        rw [Client.run_of_address_error hbare]
        obtain ⟨e, he, hwhy⟩ := (t.isBase hparse).below_of_isMisread hhost call.order
        rw [Client.run_of_address_error (hslashed.trans he)]
        rcases short_or_unsent hcall with ⟨own, hown, hshort⟩ | hunsent
        · -- the path of the call is fine, so the host is blamed all the same
          rw [(t.isBase hparse).below_of_short hhost hown hshort] at he
          rw [← Except.error.inj he]
          exact .same _
        · rw [hunsent, hunsent]
          rcases hwhy with rfl | hown
          · exact .same _
          · exact .unsent reactions hparse hhost hcall hown

theorem forall₂_same {steps : List Step} {rs : List (Report Answer)} (h : rs.length = steps.length) :
    List.Forall₂ (fun step x => step.Agrees t x.1 x.2) steps (rs.zip rs) := by
  induction steps generalizing rs with
  | nil =>
      rw [List.length_eq_zero_iff.1 h]
      exact .nil
  | cons step steps ih =>
      cases rs with
      | nil => cases h
      | cons r rs => exact .cons (.same r) (ih (Nat.succ.inj h))

/-- So do all steps of a session, one after another. -/
theorem run_agrees (reactions : List Reaction) (steps : List Step) :
    List.Forall₂ (fun step x => step.Agrees t x.1 x.2) steps
      ((run (t.client timeout) reactions steps).zip
        (run (t.slashedClient timeout) reactions steps)) := by
  induction steps generalizing reactions with
  | nil => exact .nil
  | cons step steps ih =>
      have hagrees := report_agrees t timeout reactions step
      simp only [run, List.zip_cons_cons]
      refine .cons hagrees ?_
      rw [hagrees.rest_eq, clientAfter_eq_fresh, clientAfter_eq_fresh]
      cases step.assigned? with
      | none => exact ih _
      | some url => exact forall₂_same t (length_run _ _ _)

end Slashed

/-- A session sees of its client the URLs of all orders and the timeout. -/
theorem run_congr {c d : Client} (htimeout : d.connectTimeout = c.connectTimeout)
    (h : ∀ o, d.address o = c.address o) (reactions : List Reaction) (steps : List Step) :
    run d reactions steps = run c reactions steps := by
  induction steps generalizing c d reactions with
  | nil => rfl
  | cons step steps ih =>
      have hreport : report d reactions step = report c reactions step := by
        unfold report
        cases step.call? with
        | none => rfl
        | some call => exact Client.run_congr htimeout (h call.order) reactions
      simp only [run, hreport, List.cons.injEq, true_and]
      rw [clientAfter_eq_fresh, clientAfter_eq_fresh]
      cases step.assigned? with
      | none => exact ih (c := c) (d := d) htimeout h _
      | some url =>
          rw [htimeout]
          rfl

/-- A request for all workspaces goes right behind the base URL. -/
theorem fetch_url {t : BaseText} {c : Client} (hc : c.baseUrl = t.url ∨ c.baseUrl = t.slashed)
    {reactions : List Reaction} {request : Request}
    (h : (report c reactions .fetch).request? = some request) :
    ∃ u, t.IsNormal u ∧ request.url.text = u.text ++ "/workspaces/" := by
  have hrequest : c.request (Call.fetch.map Answer.listing).order = .ok request :=
    Client.request_of_mem_run h
  obtain ⟨u, hparse, hurl⟩ := BaseText.address_fetch hc (Client.request_eq_ok hrequest).1
  have hnormal := t.isNormal_normal hparse
  refine ⟨u.normal, hnormal, ?_⟩
  rw [hurl]
  exact Url.text_append hnormal.query hnormal.fragment "/workspaces/".toList

/-- So do all such requests of a session, as long as that is the base URL in force. -/
theorem fetches_url (t : BaseText) (c : Client) (reactions : List Reaction) (steps : List Step) :
    List.Forall₂
      (fun x r => x.2 = .fetch → x.1.baseUrl = t.url ∨ x.1.baseUrl = t.slashed →
        ∀ request, r.request? = some request →
          ∃ u, t.IsNormal u ∧ request.url.text = u.text ++ "/workspaces/")
      (alone c steps) (run c reactions steps) := by
  induction steps generalizing c reactions with
  | nil => exact .nil
  | cons step steps ih =>
      rw [alone_cons]
      refine .cons ?_ (ih _ _)
      rintro rfl hc request hrequest
      exact fetch_url hc hrequest

/-- **A slash at the end of the base URL does not matter.**  If the base URL can be put together
again, as it can in any case if its authority is ASCII, all steps of a session report the same with a
slash and without.  If it cannot, they still do, but where neither sends anything, they may blame
different things for it.  And whenever all workspaces are asked for, it is right behind the base URL
as it is sent. -/
theorem run_slashed (t : BaseText) (timeout : Option Binary64) (reactions : List Reaction)
    (steps : List Step) :
    ((∀ c ∈ t.authority, Url.isAscii c = true) → t.IsRereadable) ∧
    (t.IsRereadable →
      run (t.slashedClient timeout) reactions steps = run (t.client timeout) reactions steps) ∧
    List.Forall₂ (fun step x => step.Agrees t x.1 x.2) steps
      ((run (t.client timeout) reactions steps).zip
        (run (t.slashedClient timeout) reactions steps)) ∧
    ∀ c, c = t.client timeout ∨ c = t.slashedClient timeout →
      List.Forall₂
        (fun x r => x.2 = .fetch → x.1.baseUrl = t.url ∨ x.1.baseUrl = t.slashed →
          ∀ request, r.request? = some request →
            ∃ u, t.IsNormal u ∧ request.url.text = u.text ++ "/workspaces/")
        (alone c steps) (run c reactions steps) := by
  refine ⟨BaseText.isRereadable_of_ascii, ?_, run_agrees t timeout reactions steps, ?_⟩
  · intro ht
    exact run_congr (c := t.client timeout) (d := t.slashedClient timeout) rfl
      (BaseText.address_slashed timeout ht) reactions steps
  · intro c _
    exact fetches_url t c reactions steps

/-- A base URL with user information, a port that its scheme has anyway, and a blank. -/
def untidyBase : BaseText where
  scheme := "HTTP".toList
  authority := "u:p@Side:080".toList
  path := "/a b".toList
  isHttp := by decide
  hasAuthority := by decide
  authorityEnds := List.all_iff_forall_prop.1 (by decide)
  pathBegins := fun _ hc => (Option.some.inj hc).symm
  pathEnds := List.all_iff_forall_prop.1 (by decide)
  isOpen := by decide
  noDots := List.all_iff_forall_prop.1 (by decide)
  isShort := by decide

/-- A task with a line end in its name cannot be asked for, and that is reported the same with a
slash and without; the workspaces can be asked for. -/
theorem run_slashed_untidy :
    untidyBase.url = "HTTP://u:p@Side:080/a b" ∧
    run (untidyBase.slashedClient none) [.fail ⟨"ConnectError", "refused"⟩] [.getTask "w" "\n", .fetch] =
      run (untidyBase.client none) [.fail ⟨"ConnectError", "refused"⟩] [.getTask "w" "\n", .fetch] ∧
    ∃ request, (report (untidyBase.client none) [.fail ⟨"ConnectError", "refused"⟩] .fetch).request? =
        some request ∧
      request.url.text = "http://u:p@side/a%20b/workspaces/" ∧
      ∃ u, untidyBase.IsNormal u ∧ request.url.text = u.text ++ "/workspaces/" := by
  obtain ⟨hascii, hsame, -⟩ := run_slashed untidyBase none [.fail ⟨"ConnectError", "refused"⟩]
    [.getTask "w" "\n", .fetch]
  have hrun := hsame (hascii (List.all_iff_forall_prop.1 (by decide)))
  obtain ⟨-, -, -, hfetches⟩ := run_slashed untidyBase none [.fail ⟨"ConnectError", "refused"⟩] [.fetch]
  have hfetch := hfetches (untidyBase.client none) (.inl rfl)
  rw [alone_cons] at hfetch
  rcases hfetch with _ | ⟨hfetch, -⟩
  refine ⟨by rfl, hrun, _, rfl, by rfl, hfetch rfl (.inl rfl) _ rfl⟩

/-- A base URL whose host looks like an address of four numbers in its ASCII form. -/
def misreadBase : BaseText where
  scheme := "http".toList
  authority := "256。1。1。1".toList
  path := "/api".toList
  isHttp := by decide
  hasAuthority := by decide
  authorityEnds := List.all_iff_forall_prop.1 (by decide)
  pathBegins := fun _ hc => (Option.some.inj hc).symm
  pathEnds := List.all_iff_forall_prop.1 (by decide)
  isOpen := by decide
  noDots := List.all_iff_forall_prop.1 (by decide)
  isShort := by decide

/-- A base URL whose host is an address in brackets, with capital letters. -/
def capitalBase : BaseText where
  scheme := "http".toList
  authority := "[FE80::1]".toList
  path := "/api".toList
  isHttp := by decide
  hasAuthority := by decide
  authorityEnds := List.all_iff_forall_prop.1 (by decide)
  pathBegins := fun _ hc => (Option.some.inj hc).symm
  pathEnds := List.all_iff_forall_prop.1 (by decide)
  isOpen := by decide
  noDots := List.all_iff_forall_prop.1 (by decide)
  isShort := by decide

/-- The URL that it is read as. -/
def misreadUrl : Url := ⟨"http", "", "256.1.1.1", none, "/api".toList, none, none⟩

/-- With a misread host, a slash changes what is blamed for a path with a line end.  And an address
keeps its capital letters. -/
theorem run_slashed_misread :
    (∃ e e' : ApiError,
      run (misreadBase.client none) [] [.getTask "\n" "t"] = [⟨.error (.api e), none, [], []⟩] ∧
      run (misreadBase.slashedClient none) [] [.getTask "\n" "t"] =
        [⟨.error (.api e'), none, [], []⟩] ∧
      e.message = "Invalid IPv4 address: '256.1.1.1'" ∧
      e'.message = "Invalid non-printable ASCII character in URL, '\\n' at position 12.") ∧
    ∃ request, (report (capitalBase.client none) [] .fetch).request? = some request ∧
      request.url.text = "http://[FE80::1]/api/workspaces/" := by
  have hparse : Url.parse misreadBase.url = .ok misreadUrl := by decide +kernel
  have hbare := BaseText.address_of_isMisread none hparse (by decide) (by decide)
    ((Call.getTask "\n" "t").map Answer.task).order
  have hslashed : (misreadBase.slashedClient none).address
      ((Call.getTask "\n" "t").map Answer.task).order = .error (.control '\n' 12) := by
    rw [BaseText.address_slashedClient none hparse]
    rfl
  have hrun : ∀ (c : Client) (e : UrlError),
      c.address ((Call.getTask "\n" "t").map Answer.task).order = .error e →
        run c [] [.getTask "\n" "t"] = [⟨.error (.api (.unsent (.url e))), none, [], []⟩] := by
    intro c e h
    have hcall : report c [] (.getTask "\n" "t") =
        c.run ((Call.getTask "\n" "t").map Answer.task) [] := rfl
    rw [run, run, hcall, Client.run_of_address_error h]
    rfl
  exact ⟨⟨_, _, hrun _ _ hbare, hrun _ _ hslashed, rfl, rfl⟩, _, rfl, rfl⟩

end Session

end WorkspaceWatch
