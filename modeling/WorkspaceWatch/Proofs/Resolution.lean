/-
**The status of a project.**

A project's status is decided by what asking for the list of workspaces gives, and by the first
workspace in it that is bound to the project's directory.  Resolving a status fails only where asking
ends in a mishap, because a host cannot be named; each of the three outcomes has a description of its
own that leaves out how it is found.

Main definitions:

* `WorkspaceWatch.IsFirstBound` — the first workspace of a list that is bound to a directory has a
  given identifier;
* `WorkspaceWatch.Status.given` — the fields that a status is built from;
* `WorkspaceWatch.Client.Resolves` — the status that a reaction of the daemon gives to a project.

Main results:

* `WorkspaceWatch.Status.ofListing_eq_found_iff`, `WorkspaceWatch.Status.ofListing_eq_noWorkspace_iff`
  — the status that a list gives to a project;
* `WorkspaceWatch.Status.exists_entry_given` — every status passes the rule that is checked when it
  is built;
* `WorkspaceWatch.Client.resolve_classifies` — **unless a host cannot be named, a status is resolved
  whatever the daemon does, and is the one of three that the daemon's reaction and the project's path
  determine**;
* `WorkspaceWatch.Client.resolve_led_astray` — a redirect to a host that cannot be named leaves
  without a status.
-/

import WorkspaceWatch.Proofs.Fetch
import WorkspaceWatch.Status.Resolver

set_option autoImplicit false

namespace WorkspaceWatch

/-! ### The first workspace bound to a directory -/

/-- The first workspace of a list that is bound to a directory has the given identifier. -/
def IsFirstBound (ws : List Workspace) (directory id : String) : Prop :=
  ∃ (i : Nat) (w : Workspace), ws[i]? = some w ∧ w.directory = some directory ∧ w.id = id ∧
    ∀ j < i, ∀ v, ws[j]? = some v → v.directory ≠ some directory

theorem findByDirectory?_eq_none_iff (ws : List Workspace) (d : String) :
    findByDirectory? ws (some d) = none ↔ ∀ w ∈ ws, w.directory ≠ some d := by
  simp [findByDirectory?]

/-- The workspace that is found is the first one bound to the directory. -/
theorem isFirstBound_iff (ws : List Workspace) (d id : String) :
    IsFirstBound ws d id ↔ ∃ w, findByDirectory? ws (some d) = some w ∧ w.id = id := by
  simp only [findByDirectory?, List.find?_eq_some_iff_getElem]
  constructor
  · rintro ⟨i, w, hi, hw, rfl, hfirst⟩
    obtain ⟨hlt, rfl⟩ := List.getElem?_eq_some_iff.1 hi
    refine ⟨ws[i], ⟨by simp [hw], i, hlt, rfl, ?_⟩, rfl⟩
    intro j hj
    simpa using hfirst j hj ws[j] (List.getElem?_eq_getElem _)
  · rintro ⟨w, ⟨hw, i, hlt, rfl, hfirst⟩, rfl⟩
    refine ⟨i, ws[i], List.getElem?_eq_getElem hlt, by simpa using hw, rfl, ?_⟩
    intro j hj v hv
    obtain ⟨hjlt, rfl⟩ := List.getElem?_eq_some_iff.1 hv
    simpa using hfirst j hj

theorem IsFirstBound.unique {ws : List Workspace} {d id id' : String} (h : IsFirstBound ws d id)
    (h' : IsFirstBound ws d id') : id' = id := by
  rw [isFirstBound_iff] at h h'
  obtain ⟨w, hw, rfl⟩ := h
  obtain ⟨w', hw', rfl⟩ := h'
  rw [hw] at hw'
  cases hw'
  rfl

theorem exists_isFirstBound_iff (ws : List Workspace) (d : String) :
    (∃ id, IsFirstBound ws d id) ↔ ∃ w ∈ ws, w.directory = some d := by
  simp only [isFirstBound_iff]
  constructor
  · rintro ⟨id, w, hw, -⟩
    refine ⟨w, List.mem_of_find?_eq_some hw, ?_⟩
    exact ((findByDirectory?_eq_some_iff ws d w).1 hw).1
  · rintro ⟨w, hw, hd⟩
    cases hfind : findByDirectory? ws (some d) with
    | none => exact absurd hd ((findByDirectory?_eq_none_iff ws d).1 hfind w hw)
    | some found => exact ⟨found.id, found, rfl, rfl⟩

/-- Workspaces without a directory might as well not be there. -/
theorem findByDirectory?_filter (ws : List Workspace) (path : Option String) :
    findByDirectory? (ws.filter (·.directory.isSome)) path = findByDirectory? ws path := by
  cases path with
  | none => rfl
  | some d =>
      induction ws with
      | nil => rfl
      | cons w ws ih =>
          simp only [findByDirectory?] at ih ⊢
          cases hd : w.directory with
          | none => simp [hd, ih]
          | some d' =>
              by_cases h : d' = d
              · simp [hd, h]
              · simp [hd, h, ih]

namespace Status

/-! ### The status that a list gives to a project -/

theorem ofListing_eq_found_iff (path : Option String) (ws : List Workspace) (id : String) :
    ofListing path (some ws) = .found id ↔ ∃ d, path = some d ∧ IsFirstBound ws d id := by
  cases path with
  | none => simp [ofListing]
  | some d =>
      simp only [ofListing, isFirstBound_iff, Option.some.injEq, exists_eq_left']
      cases findByDirectory? ws (some d) with
      | none => simp
      | some w => simp

theorem ofListing_eq_noWorkspace_iff (path : Option String) (ws : List Workspace) :
    ofListing path (some ws) = .noWorkspace ↔
      ∀ d, path = some d → ∀ w ∈ ws, w.directory ≠ some d := by
  cases path with
  | none => simp [ofListing]
  | some d =>
      simp only [ofListing, Option.some.injEq, forall_eq', ← findByDirectory?_eq_none_iff]
      cases findByDirectory? ws (some d) with
      | none => simp
      | some w => simp

theorem ofListing_ne_unavailable (path : Option String) (ws : List Workspace) :
    ofListing path (some ws) ≠ .unavailable := by
  simp only [ofListing]
  cases findByDirectory? ws path with
  | none => simp
  | some w => simp

/-! ### Building a status -/

/-- The fields that a status is built from. -/
def given : Status → List (String × Json)
  | found id => [("kind", .text StatusKind.workspaceFound.text), ("workspace_id", .text id)]
  | s => [("kind", .text s.kind.text)]

/-- Every status passes the rule that is checked when it is built. -/
theorem exists_entry_given (s : Status) :
    ∃ e, Entry.ofEntries .status s.given = .ok e ∧ Status.ofEntry e = s := by
  cases s with
  | unavailable => exact ⟨_, rfl, rfl⟩
  | found id => exact ⟨_, rfl, rfl⟩
  | noWorkspace => exact ⟨_, rfl, rfl⟩

end Status

namespace Client

/-! ### Resolving -/

/-- Resolving a status asks for the list of workspaces, and classifies the project by it. -/
theorem resolve_result (c : Client) (path : Option String) (reactions : List Reaction) :
    (c.run (Call.resolve path) reactions).result =
      (c.run Call.fetch reactions).result.map (Status.ofListing path) := by
  simp only [run_result, Call.resolve]
  split <;> simp_all [Except.map]

theorem Lists.resolve {c : Client} {reaction : Reaction} {ws : List Workspace}
    (h : c.Lists reaction ws) (path : Option String) (rest : List Reaction) :
    (c.run (Call.resolve path) (reaction :: rest)).result = .ok (.ofListing path (some ws)) := by
  rw [resolve_result, h.fetch rest]
  rfl

theorem ListsNothing.resolve {c : Client} {reaction : Reaction} (h : c.ListsNothing reaction)
    (path : Option String) (rest : List Reaction) :
    (c.run (Call.resolve path) (reaction :: rest)).result = .ok .unavailable := by
  rw [resolve_result, h.fetch rest]
  rfl

/-- Resolving the status of a project gives a status, if the daemon's next reaction is the given
one. -/
def Resolves (c : Client) (path : Option String) (reaction : Reaction) (s : Status) : Prop :=
  ∀ rest, (c.run (Call.resolve path) (reaction :: rest)).result = .ok s

theorem Lists.resolves {c : Client} {reaction : Reaction} {ws : List Workspace}
    (h : c.Lists reaction ws) (path : Option String) :
    c.Resolves path reaction (.ofListing path (some ws)) :=
  h.resolve path

theorem ListsNothing.resolves {c : Client} {reaction : Reaction} (h : c.ListsNothing reaction)
    (path : Option String) : c.Resolves path reaction .unavailable :=
  h.resolve path

/-- Where asking ends in a mishap, resolving does. -/
theorem Astray.resolve {c : Client} {reaction : Reaction} {m : Mishap} (h : c.Astray reaction m)
    (path : Option String) (rest : List Reaction) :
    (c.run (Call.resolve path) (reaction :: rest)).result = .error (.escaped m) := by
  rw [resolve_result, h.fetch rest]
  rfl

theorem Resolves.not_astray {c : Client} {path : Option String} {reaction : Reaction} {s : Status}
    (h : c.Resolves path reaction s) (m : Mishap) : ¬c.Astray reaction m := by
  intro hm
  have hescaped := hm.resolve path []
  rw [h []] at hescaped
  cases hescaped

theorem Resolves.unique {c : Client} {path : Option String} {reaction : Reaction} {s s' : Status}
    (h : c.Resolves path reaction s) (h' : c.Resolves path reaction s') : s' = s := by
  have hsame := (h' []).symm.trans (h [])
  exact Except.ok.inj hsame

/-- A reaction that gives a list is used up by resolving a status. -/
theorem Lists.resolve_rest {c : Client} {reaction : Reaction} {ws : List Workspace}
    (h : c.Lists reaction ws) (path : Option String) (rest : List Reaction) :
    (c.run (Call.resolve path) (reaction :: rest)).rest = rest := by
  obtain ⟨response, hresponse, -⟩ := h
  have hreceives : c.Receives (Call.resolve path).order reaction response := hresponse
  exact hreceives.run_rest rest

/-- The first workspace bound to a directory has one identifier in all that a reaction lists. -/
theorem Lists.isFirstBound_unique {c : Client} {reaction : Reaction} {ws ws' : List Workspace}
    {d id id' : String} (hws : c.Lists reaction ws) (hws' : c.Lists reaction ws')
    (hid : IsFirstBound ws d id) (hid' : IsFirstBound ws' d id') : id' = id := by
  rw [hws.unique hws'] at hid'
  exact hid.unique hid'

/-- Where no workspace is bound to a directory, there is no first one either. -/
theorem Lists.not_isFirstBound {c : Client} {reaction : Reaction} {ws ws' : List Workspace}
    {d : String} (hws : c.Lists reaction ws) (hws' : c.Lists reaction ws')
    (hunbound : ∀ w ∈ ws, w.directory ≠ some d) (id : String) : ¬IsFirstBound ws' d id := by
  intro hid
  rw [hws.unique hws'] at hid
  obtain ⟨w, hw, hd⟩ := (exists_isFirstBound_iff ws d).1 ⟨id, hid⟩
  exact hunbound w hw hd

/-- A reaction that leads to no mishap gives no list, or one in which no workspace is bound to a
directory, or one in which a first workspace is. -/
theorem listsNothing_or_unbound_or_bound {c : Client} {reaction : Reaction}
    (h : ∀ m, ¬c.Astray reaction m) (directory : String) :
    c.ListsNothing reaction ∨
      (∃ ws, c.Lists reaction ws ∧ ∀ w ∈ ws, w.directory ≠ some directory) ∨
      ∃ ws id, c.Lists reaction ws ∧ IsFirstBound ws directory id := by
  rcases c.lists_or_listsNothing_or_astray reaction with ⟨ws, hws⟩ | hnone | ⟨m, hm⟩
  · by_cases hbound : ∃ w ∈ ws, w.directory = some directory
    · obtain ⟨id, hid⟩ := (exists_isFirstBound_iff ws directory).2 hbound
      exact .inr (.inr ⟨ws, id, hws, hid⟩)
    · refine .inr (.inl ⟨ws, hws, ?_⟩)
      intro w hw hd
      exact hbound ⟨w, hw, hd⟩
  · exact .inl hnone
  · exact absurd hm (h m)

/-- **Unless a host cannot be named, a status is resolved whatever the daemon does.**  Where asking
for the workspaces ends in a mishap, resolving does, and only there.  Otherwise the status is
*unavailable* exactly if the daemon gives no list of workspaces; if it gives one, it is *found*
exactly if the path is that of a workspace in the list, with the identifier of the first such
workspace; otherwise it is *no workspace*.  Workspaces without a directory have no part in it, and
the status passes its own rule. -/
theorem resolve_classifies (c : Client) (path : Option String) (reaction : Reaction)
    (rest : List Reaction) :
    (∀ m, (c.run (Call.resolve path) (reaction :: rest)).result = .error (.escaped m) ↔
      c.Astray reaction m) ∧
    ((∀ m, ¬c.Astray reaction m) →
      ∃ s, (c.run (Call.resolve path) (reaction :: rest)).result = .ok s ∧
        (s = .unavailable ↔ c.ListsNothing reaction) ∧
        (∀ id, s = .found id ↔
          ∃ ws, c.Lists reaction ws ∧ ∃ d, path = some d ∧ IsFirstBound ws d id) ∧
        (s = .noWorkspace ↔
          ∃ ws, c.Lists reaction ws ∧ ∀ d, path = some d → ∀ w ∈ ws, w.directory ≠ some d) ∧
        (∀ ws, c.Lists reaction ws →
          Status.ofListing path (some (ws.filter (·.directory.isSome))) = s) ∧
        ∃ e, Entry.ofEntries .status s.given = .ok e ∧ Status.ofEntry e = s) := by
  have hescaped : ∀ m, (c.run (Call.resolve path) (reaction :: rest)).result = .error (.escaped m) ↔
      c.Astray reaction m := by
    intro m
    rw [resolve_result, ← c.fetch_eq_escaped_iff reaction rest m]
    cases (c.run Call.fetch (reaction :: rest)).result <;> simp [Except.map]
  refine ⟨hescaped, fun hnamed => ?_⟩
  rcases c.lists_or_listsNothing_or_astray reaction with ⟨ws, h⟩ | h | ⟨m, h⟩
  -- a list that the reaction gives is the only one it gives
  · have hunique : ∀ ws', c.Lists reaction ws' ↔ ws' = ws := by
      intro ws'
      rw [← c.fetch_eq_some_iff reaction rest, h.fetch rest]
      simp [eq_comm]
    refine ⟨Status.ofListing path (some ws), h.resolve path rest, ?_, ?_, ?_, ?_,
      Status.exists_entry_given _⟩
    · simp [Status.ofListing_ne_unavailable, h.not_listsNothing]
    · intro id
      simp [hunique, Status.ofListing_eq_found_iff]
    · simp [hunique, Status.ofListing_eq_noWorkspace_iff]
    · intro ws' h'
      rw [(hunique ws').1 h']
      simp only [Status.ofListing, findByDirectory?_filter]
  · have hnone : ∀ ws, ¬c.Lists reaction ws := fun ws h' => h'.not_listsNothing h
    refine ⟨.unavailable, h.resolve path rest, by simp [h], by simp [hnone], by simp [hnone], ?_,
      Status.exists_entry_given _⟩
    intro ws h'
    exact absurd h' (hnone ws)
  · exact absurd h (hnamed m)

/-- A daemon that refuses the connection is not to be had. -/
theorem resolve_classifies_refused :
    (∀ m, ¬({} : Client).Astray (.fail ⟨"ConnectError", "refused"⟩) m) ∧
      (({} : Client).run (Call.resolve (some "/p")) [.fail ⟨"ConnectError", "refused"⟩]).result =
        .ok .unavailable := by
  have hnone : ({} : Client).ListsNothing (.fail ⟨"ConnectError", "refused"⟩) :=
    .failed _ (.broken _ rfl)
  have hcalm := (hnone.resolves (some "/p")).not_astray
  obtain ⟨s, hs, hunavailable, -⟩ := (resolve_classifies {} (some "/p") _ []).2 hcalm
  rw [hunavailable.2 hnone] at hs
  exact ⟨hcalm, hs⟩

/-- A redirect to a host that cannot be named leaves without a status. -/
theorem resolve_led_astray :
    (({} : Client).run (Call.resolve (some "/p"))
      [.respond ⟨302, [("Location", "http://xn--/")], .empty⟩]).result =
        .error (.escaped ⟨"IDNAError", "Malformed A-label, no Punycode eligible content found"⟩) := by
  decide +kernel

end Client

end WorkspaceWatch
