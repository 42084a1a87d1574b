/-
**What is remarked in a session.**

Diagnostic records are made in two places only.  Asking for the list of workspaces in vain leaves one
record, which says whether the request failed, another status came, or the body could not be read;
and so does a list in which no workspace is bound to the project, with the project and the number of
workspaces.  Everything else is silent.  The records of a session are told here by what the daemon
does and by what comes back, without following the calls.

Main definitions:

* `WorkspaceWatch.Lapse`, `WorkspaceWatch.Lapse.Opens` — why there is no list of workspaces, and
  how a text about it begins;
* `WorkspaceWatch.Client.Lapses` — asking for the list gives none, with what is said about it;
* `WorkspaceWatch.Session.Remarked` — the records of one step;
* `WorkspaceWatch.Session.Trace` — the records of all steps of a session, in order.

Main results:

* `WorkspaceWatch.Client.Lapses.opens_iff` — the text tells why;
* `WorkspaceWatch.Session.remarked_iff` — **a step makes exactly these records**;
* `WorkspaceWatch.Session.trace_iff` — **and so does a session**;
* `WorkspaceWatch.Session.level_of_mem_remarks` — all of them for those who look for a fault.
-/

import WorkspaceWatch.CommandLine.Action
import WorkspaceWatch.Proofs.Resolution
import WorkspaceWatch.Session

set_option autoImplicit false

namespace WorkspaceWatch

/-- Notes are for those who look for a fault. -/
theorem Note.level_eq (n : Note) : n.level = .debug := by
  cases n <;> rfl

/-! ### Why there is no list of workspaces -/

/-- Why there is no list of workspaces: the request failed on the way, a response came with another
status than success, or the body of a success could not be read. -/
inductive Lapse where
  | transport
  | status
  | body
deriving DecidableEq, Repr

/-- How a text about a lapse begins. -/
def Lapse.opening : Lapse → String
  | transport => "Workspace fetch failed: "
  | status => "Workspace fetch returned HTTP "
  | body => "Workspace response could not be decoded: "

/-- A text begins as one about a lapse does. -/
def Lapse.Opens (l : Lapse) (text : String) : Prop := l.opening.toList <+: text.toList

/-- No text begins in two of these ways. -/
theorem Lapse.Opens.unique {l l' : Lapse} {text : String} (h : l.Opens text) (h' : l'.Opens text) :
    l' = l := by
  -- of two beginnings of one text, the shorter one begins the longer one
  have hcompare := List.prefix_or_prefix_of_prefix h h'
  revert hcompare
  cases l <;> cases l' <;> decide

namespace Client

/-- Asking for the list of workspaces gives none, for a reason and with a text about it.  A request
that cannot be sent fails also if the daemon has no reaction left. -/
inductive Lapses (c : Client) : List Reaction → Lapse → String → Prop
  | unsendable {failure : SendFailure} : c.request Call.fetch.order = .error (.failed failure) →
      Lapses c [] .transport ("Workspace fetch failed: " ++ failure.shown)
  | failed {reaction : Reaction} {rest : List Reaction} {failure : SendFailure} :
      c.Fails Call.fetch.order reaction failure →
        Lapses c (reaction :: rest) .transport ("Workspace fetch failed: " ++ failure.shown)
  | refused {reaction : Reaction} {rest : List Reaction} {response : Response} :
      c.Receives Call.fetch.order reaction response → response.status ≠ 200 →
        Lapses c (reaction :: rest) .status
          ("Workspace fetch returned HTTP " ++ toString response.status)
  | unreadable {reaction : Reaction} {rest : List Reaction} {response : Response}
      {rejection : Rejection} :
      c.Receives Call.fetch.order reaction response → response.status = 200 →
        Model.workspaceList.decode response.body = .error rejection →
        Lapses c (reaction :: rest) .body
          ("Workspace response could not be decoded: " ++
            Note.issueCount rejection.issues.length ++ " for " ++ rejection.title)

variable {c : Client} {reactions : List Reaction} {lapse : Lapse} {text : String}

theorem Lapses.opens (h : c.Lapses reactions lapse text) : lapse.Opens text := by
  unfold Lapse.Opens
  cases h with
  | unsendable | failed | refused =>
      rw [String.toList_append]
      exact List.prefix_append _ _
  | unreadable =>
      simp only [String.toList_append, List.append_assoc]
      exact List.prefix_append _ _

/-- **The text about a lapse tells which it was.** -/
theorem Lapses.opens_iff (h : c.Lapses reactions lapse text) (lapse' : Lapse) :
    lapse'.Opens text ↔ lapse' = lapse := by
  constructor
  · intro h'
    exact h.opens.unique h'
  · rintro rfl
    exact h.opens

/-! ### What asking concludes -/

/-- A record about a lapse. -/
def lapseRemark (text : String) : Remark := ⟨"sidekick.client", .debug, text⟩

/-- A lapse leaves asking without a list, and with one note. -/
theorem Lapses.exists_note (h : c.Lapses reactions lapse text) :
    ∃ note : Note, note.remark = lapseRemark text ∧
      Call.fetch.conclude (c.exchange Call.fetch.order reactions).outcome = (.ok none, [note]) := by
  cases h with
  | @unsendable failure hq =>
      refine ⟨.fetchFailed failure, rfl, ?_⟩
      rw [exchange, hq]
      rfl
  | @failed reaction rest failure hf =>
      refine ⟨.fetchFailed failure, rfl, ?_⟩
      rw [(c.exchange_eq_failure_iff _ reaction rest failure).2 hf]
      rfl
  | @refused reaction rest response hr hs =>
      refine ⟨.fetchStatus response.status, rfl, ?_⟩
      rw [(c.exchange_eq_response_iff _ reaction rest response).2 hr]
      simp [Call.fetch, Call.listing, hs]
  | @unreadable reaction rest response rejection hr hs hd =>
      refine ⟨.fetchUnreadable rejection, rfl, ?_⟩
      rw [(c.exchange_eq_response_iff _ reaction rest response).2 hr]
      simp [Call.fetch, Call.listing, hs, hd]

/-- One text only is said about a daemon's reactions. -/
theorem Lapses.text_unique (h : c.Lapses reactions lapse text) {lapse' : Lapse} {text' : String}
    (h' : c.Lapses reactions lapse' text') : text' = text := by
  obtain ⟨note, hnote, hconclude⟩ := h.exists_note
  obtain ⟨note', hnote', hconclude'⟩ := h'.exists_note
  rw [hconclude] at hconclude'
  cases hconclude'
  rw [hnote] at hnote'
  exact (congrArg Remark.text hnote').symm

/-- A list that is given is concluded without a note. -/
theorem Lists.conclude {reaction : Reaction} {ws : List Workspace} (h : c.Lists reaction ws)
    (rest : List Reaction) :
    Call.fetch.conclude (c.exchange Call.fetch.order (reaction :: rest)).outcome =
      (.ok (some ws), []) := by
  obtain ⟨response, hr, hs, entries, hd, rfl⟩ := h
  rw [(c.exchange_eq_response_iff _ reaction rest response).2 hr]
  simp [Call.fetch, Call.listing, hs, hd]

/-- How asking for the list of workspaces ends: in vain, with a list, or without a word, after a
mishap or if the daemon has no reaction left. -/
inductive Asks (c : Client) : List Reaction → Prop
  | lapses {reactions : List Reaction} {lapse : Lapse} {text : String} :
      c.Lapses reactions lapse text → Asks c reactions
  | lists {reaction : Reaction} {rest : List Reaction} {ws : List Workspace} :
      c.Lists reaction ws → Asks c (reaction :: rest)
  | breaksOff {reactions : List Reaction} {e : CallError} :
      Call.fetch.conclude (c.exchange Call.fetch.order reactions).outcome = (.error e, []) →
        Asks c reactions

/-- There is no other end. -/
theorem asks (c : Client) (reactions : List Reaction) : c.Asks reactions := by
  cases reactions with
  | nil =>
      rcases hq : c.request Call.fetch.order with (failure | m) | request
      · exact .lapses (.unsendable hq)
      · refine .breaksOff (e := .escaped m) ?_
        rw [exchange, hq]
        rfl
      · refine .breaksOff (e := .exhausted) ?_
        rw [exchange, hq]
        rfl
  | cons reaction rest =>
      rcases c.fails_or_receives_or_escapes Call.fetch.order reaction with
        ⟨failure, hf⟩ | ⟨response, hr⟩ | ⟨m, hm⟩
      · exact .lapses (.failed hf)
      · by_cases hs : response.status = 200
        · cases hd : Model.workspaceList.decode response.body with
          | ok entries => exact .lists ⟨response, hr, hs, entries, hd, rfl⟩
          | error rejection => exact .lapses (.unreadable hr hs hd)
        · exact .lapses (.refused hr hs)
      · refine .breaksOff (e := .escaped m) ?_
        rw [(c.exchange_eq_escaped_iff _ reaction rest m).2 hm]
        rfl

end Client

namespace Session

/-! ### The records of one step -/

/-- The record about a project that no workspace is bound to. -/
def unboundRemark (path : Option String) (count : Nat) : Remark :=
  ⟨"sidekick.resolver", .debug,
    "No workspace bound to " ++ path.elim "None" quoted ++ " among " ++ toString count⟩

/-- The records of a step, by what comes back from it: one about the lapse if there is no list of
workspaces, one about the project if no workspace is bound to it, and otherwise none. -/
inductive Remarked (c : Client) (reactions : List Reaction) :
    Step → Except CallError Answer → List Remark → Prop
  | noListing {step : Step} {lapse : Lapse} {text : String} : c.Lapses reactions lapse text →
      Remarked c reactions step (.ok (.listing none)) [Client.lapseRemark text]
  | unavailable {step : Step} {lapse : Lapse} {text : String} : c.Lapses reactions lapse text →
      Remarked c reactions step (.ok (.status .unavailable)) [Client.lapseRemark text]
  | noWorkspace {path : Option String} {reaction : Reaction} {rest : List Reaction}
      {ws : List Workspace} : reactions = reaction :: rest → c.Lists reaction ws →
      Remarked c reactions (.resolve path) (.ok (.status .noWorkspace))
        [unboundRemark path ws.length]
  | silent {step : Step} {result : Except CallError Answer} : result ≠ .ok (.listing none) →
      result ≠ .ok (.status .unavailable) → result ≠ .ok (.status .noWorkspace) →
      Remarked c reactions step result []

variable {c : Client} {reactions : List Reaction} {step : Step}

/-- What comes back from a step allows one row of records. -/
theorem Remarked.unique {result : Except CallError Answer} {now now' : List Remark}
    (h : Remarked c reactions step result now) (h' : Remarked c reactions step result now') :
    now' = now := by
  cases h with
  | noListing hl =>
      cases h' with
      | noListing hl' => rw [hl.text_unique hl']
      | silent h => exact absurd rfl h
  | unavailable hl =>
      cases h' with
      | unavailable hl' => rw [hl.text_unique hl']
      | silent _ h => exact absurd rfl h
  | noWorkspace hreactions hws =>
      cases h' with
      | noWorkspace hreactions' hws' =>
          rw [hreactions] at hreactions'
          cases hreactions'
          rw [hws.unique hws']
      | silent _ _ h => exact absurd rfl h
  | silent hlisting hunavailable hunbound =>
      cases h' with
      | noListing => exact absurd rfl hlisting
      | unavailable => exact absurd rfl hunavailable
      | noWorkspace => exact absurd rfl hunbound
      | silent => rfl

/-- The records of a report. -/
def remarks (r : Report Answer) : List Remark := r.notes.map Note.remark

/-- The report on asking for the list of workspaces. -/
theorem fetch_concludes {result : Except CallError (Option (List Workspace))} {notes : List Note}
    (h : Call.fetch.conclude (c.exchange Call.fetch.order reactions).outcome = (result, notes)) :
    (report c reactions .fetch).result = result.map .listing ∧
      remarks (report c reactions .fetch) = notes.map Note.remark := by
  simp only [report, Step.call?, Client.run, Call.map, remarks, h]
  exact ⟨trivial, trivial⟩

/-- The report on resolving a status. -/
theorem resolve_concludes {path : Option String} {listing : Option (List Workspace)}
    {notes : List Note} (h : Call.fetch.conclude (c.exchange Call.fetch.order reactions).outcome =
      (.ok listing, notes)) :
    (report c reactions (.resolve path)).result = .ok (.status (.ofListing path listing)) ∧
      remarks (report c reactions (.resolve path)) =
        (notes ++ Status.remarks path listing).map Note.remark := by
  simp only [report, Step.call?, Client.run, Call.map, Call.resolve, remarks, h]
  exact ⟨rfl, trivial⟩

/-- A call that reads its success from the response makes no record. -/
theorem remarked_of_concluding {α : Type} {call : Call α} {f : α → Answer}
    {read : Response → Except ApiError α} (hstep : step.call? = some (call.map f))
    (hcall : call.conclude = Call.concluding read)
    (hplain : ∀ v, (∀ ws, f v ≠ .listing ws) ∧ ∀ s, f v ≠ .status s) :
    Remarked c reactions step (report c reactions step).result
      (remarks (report c reactions step)) := by
  have hresult : (report c reactions step).result =
      (call.conclude (c.exchange call.order reactions).outcome).1.map f := by
    simp only [report, hstep]
    rfl
  have hnotes : remarks (report c reactions step) = [] := by
    have hcalm : ∀ outcome, (Call.concluding read outcome).2 = [] := by
      intro outcome
      cases outcome with
      | response r =>
          simp only [Call.concluding]
          split <;> rfl
      | failure f => rfl
      | escaped m => rfl
      | exhausted => rfl
    simp only [report, hstep, remarks, Client.run, Call.map, hcall, hcalm, List.map_nil]
  rw [hnotes, hresult]
  cases (call.conclude (c.exchange call.order reactions).outcome).1 with
  | error e => exact .silent (by simp [Except.map]) (by simp [Except.map]) (by simp [Except.map])
  | ok v =>
      obtain ⟨hlisting, hstatus⟩ := hplain v
      exact .silent (fun h => hlisting none (Except.ok.inj h))
        (fun h => hstatus .unavailable (Except.ok.inj h))
        (fun h => hstatus .noWorkspace (Except.ok.inj h))

theorem remarked_fetch (c : Client) (reactions : List Reaction) :
    Remarked c reactions .fetch (report c reactions .fetch).result
      (remarks (report c reactions .fetch)) := by
  cases c.asks reactions with
  | lapses hl =>
      obtain ⟨note, hnote, hconclude⟩ := hl.exists_note
      obtain ⟨hresult, hremarks⟩ := fetch_concludes hconclude
      rw [hresult, hremarks, List.map_singleton, hnote]
      exact .noListing hl
  | lists hws =>
      obtain ⟨hresult, hremarks⟩ := fetch_concludes (hws.conclude _)
      rw [hresult, hremarks]
      exact .silent (by simp [Except.map]) (by simp [Except.map]) (by simp [Except.map])
  | breaksOff h =>
      obtain ⟨hresult, hremarks⟩ := fetch_concludes h
      rw [hresult, hremarks]
      exact .silent (by simp [Except.map]) (by simp [Except.map]) (by simp [Except.map])

theorem remarked_resolve (c : Client) (reactions : List Reaction) (path : Option String) :
    Remarked c reactions (.resolve path) (report c reactions (.resolve path)).result
      (remarks (report c reactions (.resolve path))) := by
  cases c.asks reactions with
  | lapses hl =>
      obtain ⟨note, hnote, hconclude⟩ := hl.exists_note
      obtain ⟨hresult, hremarks⟩ := @resolve_concludes _ _ path _ _ hconclude
      rw [hresult, hremarks, Status.remarks, List.append_nil, List.map_singleton, hnote]
      exact .unavailable hl
  | @lists _ _ ws hws =>
      obtain ⟨hresult, hremarks⟩ := @resolve_concludes _ _ path _ _ (hws.conclude _)
      rw [hresult, hremarks]
      -- the list has a workspace bound to the project, or has none
      cases hfind : findByDirectory? ws path with
      | some w =>
          simp only [Status.ofListing, Status.remarks, hfind]
          exact .silent (by simp) (by simp) (by simp)
      | none =>
          simp only [Status.ofListing, Status.remarks, hfind]
          cases path <;> exact .noWorkspace rfl hws
  | @breaksOff _ e h =>
      have hreport : (report c reactions (.resolve path)).result = .error e ∧
          remarks (report c reactions (.resolve path)) = [] := by
        simp only [report, Step.call?, Client.run, Call.map, Call.resolve, remarks, h]
        exact ⟨rfl, rfl⟩
      rw [hreport.1, hreport.2]
      exact .silent (by simp) (by simp) (by simp)

/-- A step makes the records that what comes back from it asks for. -/
theorem remarked_report (c : Client) (reactions : List Reaction) (step : Step) :
    Remarked c reactions step (report c reactions step).result
      (remarks (report c reactions step)) := by
  cases step with
  | fetch => exact remarked_fetch c reactions
  | resolve path => exact remarked_resolve c reactions path
  | createWorkspace w => exact remarked_of_concluding rfl rfl fun _ => ⟨by simp, by simp⟩
  | listTasks w statuses => exact remarked_of_concluding rfl rfl fun _ => ⟨by simp, by simp⟩
  | createTask w t => exact remarked_of_concluding rfl rfl fun _ => ⟨by simp, by simp⟩
  | getTask w t => exact remarked_of_concluding rfl rfl fun _ => ⟨by simp, by simp⟩
  | updateTask w t task => exact remarked_of_concluding rfl rfl fun _ => ⟨by simp, by simp⟩
  | deleteTask w t => exact remarked_of_concluding rfl rfl fun _ => ⟨by simp, by simp⟩
  | useBaseUrl url =>
      have hresult : (report c reactions (.useBaseUrl url)).result = .ok .nothing := rfl
      rw [hresult]
      exact .silent (by simp) (by simp) (by simp)

/-- **A step makes exactly the records that what comes back from it asks for.** -/
theorem remarked_iff (c : Client) (reactions : List Reaction) (step : Step) (now : List Remark) :
    Remarked c reactions step (report c reactions step).result now ↔
      now = remarks (report c reactions step) := by
  constructor
  · intro h
    exact (remarked_report c reactions step).unique h
  · rintro rfl
    exact remarked_report c reactions step

/-! ### The records of a session -/

/-- The records of a session, in order: each step adds those that what comes back from it asks for,
and leaves the client and the reactions to the steps after it. -/
inductive Trace : Client → List Reaction → List Step → List Remark → Prop
  | done (c : Client) (reactions : List Reaction) : Trace c reactions [] []
  | step {c : Client} {reactions : List Reaction} {step : Step} {steps : List Step}
      {now later : List Remark} :
      Remarked c reactions step (report c reactions step).result now →
      Trace (clientAfter c step) (report c reactions step).rest steps later →
      Trace c reactions (step :: steps) (now ++ later)

/-- **A session makes exactly these records.** -/
theorem trace_iff (c : Client) (reactions : List Reaction) (steps : List Step)
    (records : List Remark) :
    Trace c reactions steps records ↔ records = (run c reactions steps).flatMap remarks := by
  induction steps generalizing c reactions records with
  | nil =>
      constructor
      · rintro ⟨⟩
        rfl
      · rintro rfl
        exact .done c reactions
  | cons step steps ih =>
      simp only [run, List.flatMap_cons]
      constructor
      · intro h
        cases h with
        | step hnow hlater => rw [(remarked_iff _ _ _ _).1 hnow, (ih _ _ _).1 hlater]
      · rintro rfl
        exact .step (remarked_report c reactions step) ((ih _ _ _).2 rfl)

/-- **All records of a session are for those who look for a fault.** -/
theorem level_of_mem_remarks {c : Client} {reactions : List Reaction} {steps : List Step}
    {r : Remark} (h : r ∈ (run c reactions steps).flatMap remarks) : r.level = .debug := by
  obtain ⟨report, -, hr⟩ := List.mem_flatMap.1 h
  obtain ⟨note, -, rfl⟩ := List.mem_map.1 hr
  exact note.level_eq

end Session

end WorkspaceWatch
