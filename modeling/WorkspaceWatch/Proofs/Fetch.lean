/-
**Asking for the list of workspaces.**

The question for all workspaces is never an error: either the daemon gives a list, or there is
none, unless a host cannot be named, for which nobody looks out.  All three are described here by
what happened to the request, without following the call.

Main definitions:

* `WorkspaceWatch.Client.Lists` — a daemon's reaction gives a client a list of workspaces;
* `WorkspaceWatch.Client.ListsNothing` — it gives the client none;
* `WorkspaceWatch.Client.Astray` — asking ends in a mishap.

Main results:

* `WorkspaceWatch.Client.fetch_eq_some_iff`, `WorkspaceWatch.Client.fetch_eq_none_iff`,
  `WorkspaceWatch.Client.fetch_eq_escaped_iff` — **asking has a list as its result exactly if the
  reaction gives it, none exactly if it gives none, and ends in a mishap exactly if the question
  does**;
* `WorkspaceWatch.Client.lists_or_listsNothing_or_astray` — there is no fourth case.
-/

import WorkspaceWatch.Proofs.Exchange

set_option autoImplicit false

namespace WorkspaceWatch

namespace Client

/-- A daemon's reaction gives a client a list of workspaces: a response arrives whose status is 200
and whose body is a list. -/
def Lists (c : Client) (reaction : Reaction) (ws : List Workspace) : Prop :=
  ∃ response, c.Receives Call.fetch.order reaction response ∧ response.status = 200 ∧
    ∃ entries, Model.workspaceList.decode response.body = .ok entries ∧
      List.map Workspace.ofEntry entries = ws

/-- A daemon's reaction gives a client no list of workspaces: the request fails, or a response
arrives whose status is another one or whose body is no list. -/
inductive ListsNothing (c : Client) (reaction : Reaction) : Prop
  | failed (failure : SendFailure) : c.Fails Call.fetch.order reaction failure → c.ListsNothing reaction
  | refused (response : Response) : c.Receives Call.fetch.order reaction response →
      response.status ≠ 200 → c.ListsNothing reaction
  | unreadable (response : Response) (rejection : Rejection) :
      c.Receives Call.fetch.order reaction response →
      Model.workspaceList.decode response.body = .error rejection → c.ListsNothing reaction

/-- Asking a daemon for its workspaces ends in a mishap that nobody looks out for. -/
def Astray (c : Client) (reaction : Reaction) (mishap : Mishap) : Prop :=
  c.Escapes Call.fetch.order reaction mishap

variable (c : Client) (reaction : Reaction)

/-- A reaction gives a list, gives none, or leads to a mishap. -/
theorem lists_or_listsNothing_or_astray : (∃ ws, c.Lists reaction ws) ∨ c.ListsNothing reaction ∨
    ∃ m, c.Astray reaction m := by
  rcases c.fails_or_receives_or_escapes Call.fetch.order reaction with ⟨f, hf⟩ | ⟨r, hr⟩ | ⟨m, hm⟩
  · exact .inr (.inl (.failed f hf))
  · by_cases hs : r.status = 200
    · cases hd : Model.workspaceList.decode r.body with
      | ok entries => exact .inl ⟨_, r, hr, hs, entries, hd, rfl⟩
      | error rejection => exact .inr (.inl (.unreadable r rejection hr hd))
    · exact .inr (.inl (.refused r hr hs))
  · exact .inr (.inr ⟨m, hm⟩)

variable {c reaction}

theorem Lists.not_listsNothing {ws : List Workspace} (h : c.Lists reaction ws) :
    ¬c.ListsNothing reaction := by
  obtain ⟨r, hr, hs, entries, hd, -⟩ := h
  rintro (⟨f, hf⟩ | ⟨r', hr', hs'⟩ | ⟨r', rejection, hr', hd'⟩)
  · exact hf.not_receives r hr
  · exact hs' (hr.unique hr' ▸ hs)
  · rw [← hr.unique hr', hd] at hd'
    cases hd'

/-- A reaction that gives a list leads to no mishap. -/
theorem Lists.not_astray {ws : List Workspace} (h : c.Lists reaction ws) (m : Mishap) :
    ¬c.Astray reaction m := by
  obtain ⟨r, hr, -⟩ := h
  exact fun hm => hm.not_receives r hr

/-- A reaction that gives a list is the result of asking. -/
theorem Lists.fetch {ws : List Workspace} (h : c.Lists reaction ws) (rest : List Reaction) :
    (c.run Call.fetch (reaction :: rest)).result = .ok (some ws) := by
  obtain ⟨r, hr, hs, entries, hd, rfl⟩ := h
  rw [run_result, (c.exchange_eq_response_iff _ reaction rest r).2 hr]
  simp [Call.fetch, Call.listing, hs, hd]

/-- A reaction that gives no list leaves asking without one. -/
theorem ListsNothing.fetch (h : c.ListsNothing reaction) (rest : List Reaction) :
    (c.run Call.fetch (reaction :: rest)).result = .ok none := by
  rw [run_result]
  cases h with
  | failed f hf =>
      rw [(c.exchange_eq_failure_iff _ reaction rest f).2 hf]
      rfl
  | refused r hr hs =>
      rw [(c.exchange_eq_response_iff _ reaction rest r).2 hr]
      simp [Call.fetch, Call.listing, hs]
  | unreadable r rejection hr hd =>
      rw [(c.exchange_eq_response_iff _ reaction rest r).2 hr]
      by_cases hs : r.status = 200
      · simp [Call.fetch, Call.listing, hs, hd]
      · simp [Call.fetch, Call.listing, hs]

/-- A mishap is what asking ends in. -/
theorem Astray.fetch {m : Mishap} (h : c.Astray reaction m) (rest : List Reaction) :
    (c.run Call.fetch (reaction :: rest)).result = .error (.escaped m) := by
  rw [run_result, (c.exchange_eq_escaped_iff _ reaction rest m).2 h]
  rfl

/-- A reaction gives one list only. -/
theorem Lists.unique {ws ws' : List Workspace} (h : c.Lists reaction ws) (h' : c.Lists reaction ws') :
    ws' = ws := by
  have hfetch := h.fetch []
  rw [h'.fetch []] at hfetch
  cases hfetch
  rfl

variable (c reaction) (rest : List Reaction)

/-- **Asking has a list as its result exactly if the reaction gives it.** -/
theorem fetch_eq_some_iff (ws : List Workspace) :
    (c.run Call.fetch (reaction :: rest)).result = .ok (some ws) ↔ c.Lists reaction ws := by
  constructor
  · intro h
    rcases c.lists_or_listsNothing_or_astray reaction with ⟨ws', h'⟩ | h' | ⟨m, h'⟩ <;>
      rw [h'.fetch rest] at h <;> cases h
    exact h'
  · intro h
    exact h.fetch rest

/-- **Asking has no list as its result exactly if the reaction gives none.** -/
theorem fetch_eq_none_iff :
    (c.run Call.fetch (reaction :: rest)).result = .ok none ↔ c.ListsNothing reaction := by
  constructor
  · intro h
    rcases c.lists_or_listsNothing_or_astray reaction with ⟨ws, h'⟩ | h' | ⟨m, h'⟩ <;>
      rw [h'.fetch rest] at h <;> cases h
    exact h'
  · intro h
    exact h.fetch rest

/-- **Asking ends in a mishap exactly if the question does.** -/
theorem fetch_eq_escaped_iff (m : Mishap) :
    (c.run Call.fetch (reaction :: rest)).result = .error (.escaped m) ↔ c.Astray reaction m := by
  constructor
  · intro h
    rcases c.lists_or_listsNothing_or_astray reaction with ⟨ws, h'⟩ | h' | ⟨m', h'⟩ <;>
      rw [h'.fetch rest] at h <;> cases h
    exact h'
  · intro h
    exact h.fetch rest

end Client

end WorkspaceWatch
