/-
**Lists are read all or nothing.**

The daemon lists workspaces and tasks.  A list is read only if every item of it is, and then gives
the items' values one by one, in the daemon's order; an item that cannot be read refuses the whole
list, with the issues of all items.  What an item has to look like is said here in terms of its
keys alone.

Main definitions:

* `WorkspaceWatch.Workspace.IsWritten`, `WorkspaceWatch.Task.IsWritten` — a JSON value is the
  written form of a workspace, or of a task;
* `WorkspaceWatch.ReadsWhole` — a JSON value is read as a list, all or nothing.

Main results:

* `WorkspaceWatch.Workspace.exists_read_iff`, `WorkspaceWatch.Task.exists_read_iff` — an item is
  read exactly if it is the written form of what is read;
* `WorkspaceWatch.readsWhole` — **every list is read all or nothing**;
* `WorkspaceWatch.listings_read_whole` — the same for the two lists, together with what a client
  makes of them.
-/

import WorkspaceWatch.Proofs.Fetch

set_option autoImplicit false

namespace WorkspaceWatch

/-! ### The written form of workspaces and tasks -/

/-- The entries of an object are those of a workspace. -/
structure Workspace.IsWrittenIn (entries : List (String × Json)) (w : Workspace) : Prop where
  id : Json.lookup? entries "id" = some (.text w.id)
  name : HoldsText? (Json.lookup? entries "name") w.name
  directory : HoldsText? (Json.standing? entries "localRepoDir" "local_repo_dir") w.directory
  created : HoldsText? (Json.lookup? entries "created") w.created
  updated : HoldsText? (Json.lookup? entries "updated") w.updated

/-- A JSON value is the written form of a workspace. -/
def Workspace.IsWritten (v : Json) (w : Workspace) : Prop :=
  ∃ entries, v = .object entries ∧ w.IsWrittenIn entries

/-- The entries of an object are those of a task.  The description alone may be absent but not
`null`. -/
structure Task.IsWrittenIn (entries : List (String × Json)) (t : Task) : Prop where
  id : Json.lookup? entries "id" = some (.text t.id)
  workspaceId : Json.standing? entries "workspaceId" "workspace_id" = some (.text t.workspaceId)
  status : Json.lookup? entries "status" = some (.text t.status.text)
  description : Json.lookup? entries "description" = some (.text t.description) ∨
    Json.lookup? entries "description" = none ∧ t.description = ""
  agentType : HoldsText? (Json.standing? entries "agentType" "agent_type")
    (t.agentType.map AgentType.text)
  flowType : HoldsText? (Json.standing? entries "flowType" "flow_type") t.flowType
  createdAt : HoldsText? (Json.standing? entries "createdAt" "created_at") t.createdAt
  updatedAt : HoldsText? (Json.standing? entries "updatedAt" "updated_at") t.updatedAt

/-- A JSON value is the written form of a task. -/
def Task.IsWritten (v : Json) (t : Task) : Prop :=
  ∃ entries, v = .object entries ∧ t.IsWrittenIn entries

/-! ### Reading an item -/

theorem Workspace.ofRow_eq_iff (row : Row Sheet.workspace.fields) (w : Workspace) :
    Workspace.ofRow row = w ↔ row.full = w.toRow.full := by
  have hfull : row.full = (Workspace.ofRow row).toRow := by
    rcases row with _ | ⟨id, _ | ⟨name, _ | ⟨directory, _ | ⟨created, _ | ⟨updated, ⟨⟩⟩⟩⟩⟩⟩
    rfl
  rw [hfull]
  constructor
  · rintro rfl
    rfl
  · intro h
    exact congrArg Workspace.ofRow h

theorem Task.ofRow_eq_iff (row : Row Sheet.task.fields) (t : Task) :
    Task.ofRow row = t ↔ row.full = t.toRow.full := by
  have hfull : row.full = (Task.ofRow row).toRow := by
    rcases row with _ | ⟨id, _ | ⟨workspaceId, _ | ⟨status, _ | ⟨description, _ | ⟨agentType, _ |
      ⟨flowType, _ | ⟨createdAt, _ | ⟨updatedAt, ⟨⟩⟩⟩⟩⟩⟩⟩⟩⟩
    rfl
  rw [hfull]
  constructor
  · rintro rfl
    rfl
  · intro h
    exact congrArg Task.ofRow h

theorem Workspace.holds_toRow_iff (entries : List (String × Json)) (w : Workspace) :
    w.toRow.Holds entries ↔ w.IsWrittenIn entries := by
  have hid := Field.holds_text_iff "id" "id" entries w.id
  have hname := Field.holds_optionalText_iff "name" "name" entries w.name
  have hdirectory :=
    Field.holds_optionalText_iff "local_repo_dir" "localRepoDir" entries w.directory
  have hcreated := Field.holds_optionalText_iff "created" "created" entries w.created
  have hupdated := Field.holds_optionalText_iff "updated" "updated" entries w.updated
  rw [Json.standing?_self] at hid hname hcreated hupdated
  constructor
  · rintro ⟨h₁, h₂, h₃, h₄, h₅, -⟩
    exact ⟨hid.1 h₁, hname.1 h₂, hdirectory.1 h₃, hcreated.1 h₄, hupdated.1 h₅⟩
  · rintro ⟨h₁, h₂, h₃, h₄, h₅⟩
    exact ⟨hid.2 h₁, hname.2 h₂, hdirectory.2 h₃, hcreated.2 h₄, hupdated.2 h₅, trivial⟩

theorem Task.holds_toRow_iff (entries : List (String × Json)) (t : Task) :
    t.toRow.Holds entries ↔ t.IsWrittenIn entries := by
  have hid := Field.holds_text_iff "id" "id" entries t.id
  have hworkspaceId := Field.holds_text_iff "workspace_id" "workspaceId" entries t.workspaceId
  have hstatus := Field.holds_required_iff "status" "status" (.member .taskStatus) entries t.status
  have hdescription :=
    Field.holds_defaulted_iff "description" "description" .text entries "" t.description
  have hagentType :=
    Field.holds_optional_iff "agent_type" "agentType" (.member .agentType) entries t.agentType
  have hflowType := Field.holds_optionalText_iff "flow_type" "flowType" entries t.flowType
  have hcreatedAt := Field.holds_optionalText_iff "created_at" "createdAt" entries t.createdAt
  have hupdatedAt := Field.holds_optionalText_iff "updated_at" "updatedAt" entries t.updatedAt
  rw [Json.standing?_self] at hid hstatus hdescription
  constructor
  · rintro ⟨h₁, h₂, h₃, h₄, h₅, h₆, h₇, h₈, -⟩
    exact ⟨hid.1 h₁, hworkspaceId.1 h₂, hstatus.1 h₃, hdescription.1 h₄, hagentType.1 h₅,
      hflowType.1 h₆, hcreatedAt.1 h₇, hupdatedAt.1 h₈⟩
  · rintro ⟨h₁, h₂, h₃, h₄, h₅, h₆, h₇, h₈⟩
    exact ⟨hid.2 h₁, hworkspaceId.2 h₂, hstatus.2 h₃, hdescription.2 h₄, hagentType.2 h₅,
      hflowType.2 h₆, hcreatedAt.2 h₇, hupdatedAt.2 h₈, trivial⟩

/-- **A workspace is read exactly from its written forms.** -/
theorem Workspace.exists_read_iff (v : Json) (w : Workspace) :
    (∃ e, Entry.read .workspace v = .ok e ∧ Workspace.ofEntry e = w) ↔ Workspace.IsWritten v w := by
  simp only [Workspace.IsWritten, ← Workspace.holds_toRow_iff, Workspace.ofEntry,
    Workspace.ofRow_eq_iff]
  exact Entry.exists_read_iff Sheet.isFree_workspace v w.toRow

/-- **A task is read exactly from its written forms.** -/
theorem Task.exists_read_iff (v : Json) (t : Task) :
    (∃ e, Entry.read .task v = .ok e ∧ Task.ofEntry e = t) ↔ Task.IsWritten v t := by
  simp only [Task.IsWritten, ← Task.holds_toRow_iff, Task.ofEntry, Task.ofRow_eq_iff]
  exact Entry.exists_read_iff Sheet.isFree_task v t.toRow

/-! ### Reading a list -/

/-- The issues of all items of an array, in their order, each placed in its item of the key. -/
def itemIssues (key : String) (s : Sheet) (items : List Json) : List Issue :=
  items.zipIdx.flatMap fun (item, i) =>
    (s.issues item).map fun issue => ⟨.key key :: .index i :: issue.place, issue.fault⟩

/-- A JSON value is read as a list, all or nothing. -/
structure ReadsWhole {α : Type} (read : Json → Checked (List α)) (key : String) (s : Sheet)
    (IsWritten : Json → α → Prop) (v : Json) : Prop where
  /-- It is read exactly if every item of the array under the key is a written form, and gives
  what the items are written forms of, one by one. -/
  accepts : ∀ xs, read v = .ok xs ↔ ∃ entries items, v = .object entries ∧
    Json.lookup? entries key = some (.array items) ∧ List.Forall₂ IsWritten items xs
  /-- An item that is no written form refuses the list, with the issues of all items. -/
  refuses : ∀ entries items, v = .object entries →
    Json.lookup? entries key = some (.array items) → (∃ item ∈ items, ∀ x, ¬IsWritten item x) →
      read v = .error (itemIssues key s items)
  /-- The issues of an item are those of the item read on its own. -/
  own : ∀ item, (Entry.read s item).issues = s.issues item

/-- Reading each item and then taking each value on is reading what is taken on. -/
theorem forall₂_exists_map_iff {α β γ : Type} (R : α → β → Prop) (f : β → γ) (as : List α)
    (cs : List γ) :
    (∃ bs, List.Forall₂ R as bs ∧ bs.map f = cs) ↔
      List.Forall₂ (fun a c => ∃ b, R a b ∧ f b = c) as cs := by
  constructor
  · rintro ⟨bs, h, rfl⟩
    rw [List.forall₂_map_right_iff]
    exact h.imp fun a b hab => ⟨b, hab, rfl⟩
  · intro h
    induction h with
    | nil => exact ⟨[], .nil, rfl⟩
    | @cons a c as cs hac _ ih =>
        obtain ⟨b, hab, rfl⟩ := hac
        obtain ⟨bs, hbs, rfl⟩ := ih
        exact ⟨b :: bs, .cons hab hbs, rfl⟩

/-- The entries of the array under a key, or every issue. -/
def Entry.readListed (s : Sheet) (key : String) (entries : List (String × Json)) :
    Checked (List (Entry s)) :=
  Shape.required entries key fun
    | .array items => Entry.readItems s 0 items
    | _ => .error [⟨[], .notList⟩]

section Listed

variable {s : Sheet} {key : String} {entries : List (String × Json)} {items : List Json}

/-- An array under the key is read item by item. -/
theorem Entry.readListed_of_array (h : Json.lookup? entries key = some (.array items)) :
    Entry.readListed s key entries = (Entry.readItems s 0 items).within (.key key) := by
  rw [readListed, Shape.required, h]

/-- There is a list exactly if there is an array under the key whose items can all be read. -/
theorem Entry.readListed_eq_ok_iff (es : List (Entry s)) :
    Entry.readListed s key entries = .ok es ↔ ∃ items,
      Json.lookup? entries key = some (.array items) ∧
        List.Forall₂ (fun v e => Entry.read s v = .ok e) items es := by
  rw [readListed, Shape.required_eq_ok_iff]
  constructor
  · rintro ⟨v, hv, hread⟩
    cases v with
    | array items => exact ⟨items, hv, (readItems_eq_ok_iff s 0 items es).1 hread⟩
    | _ => cases hread
  · rintro ⟨items, hitems, hread⟩
    exact ⟨_, hitems, (readItems_eq_ok_iff s 0 items es).2 hread⟩

/-- The issues of a list are those of all items of its array. -/
theorem Entry.issues_readListed (hs : s.IsFree)
    (h : Json.lookup? entries key = some (.array items)) :
    (Entry.readListed s key entries).issues = itemIssues key s items := by
  rw [readListed_of_array h, Checked.issues_within, issues_readItems hs, itemIssues,
    List.map_flatMap]
  simp only [List.map_map]
  rfl

end Listed

section Whole

variable {α : Type} {s : Sheet} {key : String} {ofEntry : Entry s → α} {IsWritten : Json → α → Prop}
  {read : Json → Checked (List α)}

/-- **Every list is read all or nothing**, if its items are read from their written forms. -/
theorem readsWhole (hs : s.IsFree)
    (hitem : ∀ v x, (∃ e, Entry.read s v = .ok e ∧ ofEntry e = x) ↔ IsWritten v x)
    (hobject : ∀ entries,
      read (.object entries) = (Entry.readListed s key entries).map (List.map ofEntry))
    (hother : ∀ v xs, v.entries? = none → read v ≠ .ok xs) (v : Json) :
    ReadsWhole read key s IsWritten v := by
  have haccepts : ∀ v xs, read v = .ok xs ↔ ∃ entries items, v = .object entries ∧
      Json.lookup? entries key = some (.array items) ∧ List.Forall₂ IsWritten items xs := by
    intro v xs
    have hrel : IsWritten = fun v x => ∃ e, Entry.read s v = .ok e ∧ ofEntry e = x := by
      funext v x
      exact propext (hitem v x).symm
    simp only [hrel, ← forall₂_exists_map_iff]
    cases v with
    | object entries =>
        rw [hobject, map_eq_ok_iff]
        simp only [Entry.readListed_eq_ok_iff]
        constructor
        · rintro ⟨es, ⟨items, hitems, hes⟩, hxs⟩
          exact ⟨entries, items, rfl, hitems, es, hes, hxs⟩
        · rintro ⟨_, items, hv, hitems, es, hes, hxs⟩
          cases hv
          exact ⟨es, ⟨items, hitems, hes⟩, hxs⟩
    | _ => exact iff_of_false (hother _ xs rfl) (by simp)
  refine ⟨haccepts v, ?_, Entry.issues_read hs⟩
  -- a list with a bad item is not accepted, so all that is left of it are its issues
  · rintro entries items rfl hitems ⟨item, hmem, hbad⟩
    have hissues : (read (.object entries)).issues = itemIssues key s items := by
      rw [hobject, Checked.issues_map, Entry.issues_readListed hs hitems]
    rw [← hissues]
    refine Checked.eq_error_of_issues ?_
    intro xs hok
    obtain ⟨_, items', hv, hitems', hall⟩ := (haccepts _ xs).1 hok
    cases hv
    rw [hitems] at hitems'
    cases hitems'
    obtain ⟨i, hi, rfl⟩ := List.getElem_of_mem hmem
    exact hbad _ (hall.get hi (hall.length_eq ▸ hi))

end Whole

/-- All workspaces in a JSON value. -/
def Workspace.readAll (v : Json) : Checked (List Workspace) :=
  (Model.workspaceList.read v).map (List.map Workspace.ofEntry)

/-- All tasks in a JSON value. -/
def Task.readAll (v : Json) : Checked (List Task) :=
  (Model.taskList.read v).map (List.map Task.ofEntry)

theorem Workspace.readsWhole_readAll (v : Json) :
    ReadsWhole Workspace.readAll "workspaces" .workspace Workspace.IsWritten v := by
  refine readsWhole Sheet.isFree_workspace Workspace.exists_read_iff (fun entries => rfl) ?_ v
  intro v xs hv
  cases v with
  | object entries => cases hv
  | _ => exact nofun

theorem Task.readsWhole_readAll (v : Json) :
    ReadsWhole Task.readAll "tasks" .task Task.IsWritten v := by
  refine readsWhole Sheet.isFree_task Task.exists_read_iff (fun entries => rfl) ?_ v
  intro v xs hv
  cases v with
  | object entries => cases hv
  | _ => exact nofun

/-! ### What a client makes of a list -/

section Client

variable (c : Client) {raw response : Response} {v : Json}

/-- A body that is no list of workspaces leaves the client without one, whatever its response,
unless a host cannot be named. -/
theorem Client.fetch_of_not_list (hraw : raw.decoded = .ok response)
    (hbody : Json.decode? response.body = some v) (hv : ∀ ws, Workspace.readAll v ≠ .ok ws)
    (hnamed : ∀ m, ¬c.Astray (.respond raw) m) (rest : List Reaction) :
    (c.run Call.fetch (.respond raw :: rest)).result = .ok none := by
  rw [fetch_eq_none_iff]
  rcases c.lists_or_listsNothing_or_astray (.respond raw) with ⟨ws, h⟩ | h | ⟨m, h⟩
  · obtain ⟨r, hr, -, entries, hd, hws⟩ := h
    obtain rfl := hr.eq_of_decoded hraw
    rw [Model.decode_eq_ok_iff, hbody] at hd
    obtain ⟨v', hv', hread⟩ := hd
    cases hv'
    exact absurd ((map_eq_ok_iff _ _ ws).2 ⟨entries, hread, hws⟩) (hv ws)
  · exact h
  · exact absurd h (hnamed m)

/-- A body that is a list of workspaces is what the client gets, if its response says so. -/
theorem Client.fetch_of_list {ws : List Workspace}
    (hr : c.Receives Call.fetch.order (.respond raw) response) (hs : response.status = 200)
    (hbody : Json.decode? response.body = some v) (hv : Workspace.readAll v = .ok ws)
    (rest : List Reaction) :
    (c.run Call.fetch (.respond raw :: rest)).result = .ok (some ws) := by
  obtain ⟨entries, hread, hws⟩ := (map_eq_ok_iff _ _ ws).1 hv
  rw [fetch_eq_some_iff]
  have hdecode := (Model.decode_eq_ok_iff .workspaceList response.body entries).2 ⟨v, hbody, hread⟩
  exact ⟨response, hr, hs, entries, hdecode, hws⟩

/-- The tasks in a response are those in its body. -/
theorem Call.readTasks_eq (hbody : Json.decode? response.body = some v) :
    Call.readTasks response =
      (Task.readAll v).mapError fun _ => .unreadable response.status "task list" := by
  unfold Call.readTasks Call.readable Task.readAll Model.decode
  rw [hbody]
  simp only
  cases Model.taskList.read v with
  | ok entries => rfl
  | error issues => rfl

/-- Asking for tasks that come in a success gives the list in its body, or refuses it whole. -/
theorem Client.listTasks_of_isSuccess {workspaceId : String} {statuses : List String}
    (hr : c.Receives (Call.listTasks workspaceId statuses).order (.respond raw) response)
    (hs : response.isSuccess = true) (hbody : Json.decode? response.body = some v)
    (rest : List Reaction) :
    (c.run (Call.listTasks workspaceId statuses) (.respond raw :: rest)).result =
      (Task.readAll v).mapError fun _ => .api (.unreadable response.status "task list") := by
  rw [Receives.run_result_of_isSuccess rfl hr hs rest, Call.readTasks_eq hbody]
  cases Task.readAll v with
  | ok ts => rfl
  | error issues => rfl

/-- A body that is no list of tasks gives no tasks, whatever its response, unless a host cannot be
named. -/
theorem Client.listTasks_of_not_list (workspaceId : String) (statuses : List String)
    (hraw : raw.decoded = .ok response) (hbody : Json.decode? response.body = some v)
    {issues : List Issue} (hv : Task.readAll v = .error issues)
    (hnamed : ∀ m, ¬c.Escapes (Call.listTasks workspaceId statuses).order (.respond raw) m)
    (rest : List Reaction) :
    ∃ e, (c.run (Call.listTasks workspaceId statuses) (.respond raw :: rest)).result =
      .error (.api e) := by
  rcases c.fails_or_receives_or_escapes (Call.listTasks workspaceId statuses).order (.respond raw)
    with ⟨f, hf⟩ | ⟨r, hr⟩ | ⟨m, hm⟩
  · exact ⟨_, hf.run_result rfl rest⟩
  · obtain rfl := hr.eq_of_decoded hraw
    cases hs : r.isSuccess with
    | false => exact ⟨_, hr.run_result_of_not_isSuccess rfl hs rest⟩
    | true =>
        rw [c.listTasks_of_isSuccess hr hs hbody, hv]
        exact ⟨_, rfl⟩
  · exact absurd hm (hnamed m)

end Client

/-- **The two lists are read all or nothing**, and a client keeps to that: a body that is no list
of workspaces leaves it without one, and a body that is no list of tasks is an error.  Only where a
host cannot be named, of which the body knows nothing, no body is read. -/
theorem listings_read_whole (v : Json) :
    ReadsWhole Workspace.readAll "workspaces" .workspace Workspace.IsWritten v ∧
    (∀ (c : Client) (raw response : Response) (rest : List Reaction),
      raw.decoded = .ok response → Json.decode? response.body = some v →
        (∀ issues, Workspace.readAll v = .error issues →
          (∀ m, ¬c.Astray (.respond raw) m) →
            (c.run Call.fetch (.respond raw :: rest)).result = .ok none) ∧
        (∀ ws, Workspace.readAll v = .ok ws →
          c.Receives Call.fetch.order (.respond raw) response → response.status = 200 →
            (c.run Call.fetch (.respond raw :: rest)).result = .ok (some ws))) ∧
    ReadsWhole Task.readAll "tasks" .task Task.IsWritten v ∧
    (∀ (c : Client) (workspaceId : String) (statuses : List String) (raw response : Response)
      (rest : List Reaction), raw.decoded = .ok response →
        Json.decode? response.body = some v →
        (∀ issues, Task.readAll v = .error issues →
          (∀ m, ¬c.Escapes (Call.listTasks workspaceId statuses).order (.respond raw) m) → ∃ e,
            (c.run (Call.listTasks workspaceId statuses) (.respond raw :: rest)).result =
              .error (.api e)) ∧
        (c.Receives (Call.listTasks workspaceId statuses).order (.respond raw) response →
          response.isSuccess = true →
            (c.run (Call.listTasks workspaceId statuses) (.respond raw :: rest)).result =
              (Task.readAll v).mapError fun _ => .api (.unreadable response.status "task list"))) := by
  refine ⟨Workspace.readsWhole_readAll v, ?_, Task.readsWhole_readAll v, ?_⟩
  · intro c raw response rest hraw hbody
    constructor
    · intro issues hv hnamed
      refine c.fetch_of_not_list hraw hbody ?_ hnamed rest
      intro ws hws
      rw [hv] at hws
      cases hws
    · intro ws hv hr hs
      exact c.fetch_of_list hr hs hbody hv rest
  · intro c workspaceId statuses raw response rest hraw hbody
    constructor
    · intro issues hv hnamed
      exact c.listTasks_of_not_list workspaceId statuses hraw hbody hv hnamed rest
    · intro hr hs
      exact c.listTasks_of_isSuccess hr hs hbody rest

end WorkspaceWatch
