/-
**Replies that can be read both ways.**

A reply with an object under the key of the envelope may have the fields of a bare object beside
it, and then it can be read both ways.  Neither form has a right of its own: the fields are counted
that the reply itself has, and those of the object under the key with one more for the key, and the
envelope counts for less only if its number is smaller.  So a reply that says enough about itself
beside an object of few fields is taken for the object.

Main definitions:

* `WorkspaceWatch.Field.isIn`, `WorkspaceWatch.Sheet.countIn` — whether an object has a field, and
  how many fields it has;
* `WorkspaceWatch.Reply.countInside` — how many fields the object under the key of the envelope has;
* `WorkspaceWatch.Reply.preferred` — the one of two readings that has more fields.

Main results:

* `WorkspaceWatch.Row.givenCount_of_read` — **a row that was read knows how many fields its object
  had**;
* `WorkspaceWatch.Reply.read_of_both` — a reply is taken for the reading with more fields;
* `WorkspaceWatch.Client.replies_read_by_count` — **a call gives the enveloped object exactly if the
  reply has at most one field more**;
* `WorkspaceWatch.Client.createWorkspace_takes_bare` — a workspace in an envelope that is passed
  over.
-/

import WorkspaceWatch.Proofs.Envelope

set_option autoImplicit false

namespace WorkspaceWatch

/-! ### How many fields an object has -/

/-- Whether an object has a field, under either of its names. -/
def Field.isIn (f : Field) (entries : List (String × Json)) : Bool :=
  entries.any fun e => e.1 ∈ f.names

/-- How many fields of a sheet an object has. -/
def Sheet.countIn (s : Sheet) (entries : List (String × Json)) : Nat :=
  s.fields.countP (·.isIn entries)

theorem Field.isSome_find? (f : Field) (entries : List (String × Json)) :
    (f.find? entries).isSome = f.isIn entries := by
  cases hin : f.isIn entries with
  | false =>
      have habsent : ∀ e ∈ entries, e.1 ∉ f.names := by simpa [isIn] using hin
      rw [find?_eq_none habsent]
      rfl
  | true =>
      obtain ⟨e, he, hname⟩ : ∃ e ∈ entries, e.1 ∈ f.names := by simpa [isIn] using hin
      have hfound : ∀ n, e.1 = n → Json.lookup? entries n ≠ none := by
        rintro n rfl hnone
        exact (Json.lookup?_eq_none_iff entries e.1).1 hnone e he rfl
      unfold find?
      cases hwire : Json.lookup? entries f.wire with
      | some v => rfl
      | none =>
          -- the key is not the name on the wire, so it is the field's own
          simp only [names, List.mem_cons, List.not_mem_nil, or_false] at hname
          rcases hname with h | h
          · exact absurd hwire (hfound f.wire h)
          · simpa [Option.isSome_iff_ne_none] using hfound f.name h

theorem Cell.given_of_read {f : Field} {entries : List (String × Json)} {cell : Cell f}
    (h : Cell.read f entries = .ok cell) : cell.given = f.isIn entries := by
  rw [← f.isSome_find?]
  unfold Cell.read at h
  cases hfound : f.find? entries with
  | some found =>
      simp only [hfound] at h
      split at h
      · cases h
        rfl
      · cases h
  | none =>
      simp only [hfound] at h
      split at h
      · cases h
        rfl
      · cases h

/-- **A row that was read knows how many fields its object had.** -/
theorem Row.givenCount_of_read {fs : List Field} {entries : List (String × Json)} {r : Row fs}
    (h : Row.read fs entries = .ok r) : r.givenCount = fs.countP (·.isIn entries) := by
  induction r with
  | nil => rfl
  | @cons f fs cell rest ih =>
      obtain ⟨hcell, hrest⟩ := (Row.read_cons_eq_ok_iff f fs entries cell rest).1 h
      have hgiven := Cell.given_of_read hcell
      rw [givenCount, ih hrest, hgiven, List.countP_cons, Nat.add_comm]
      cases f.isIn entries <;> rfl

theorem Entry.givenCount_of_read {s : Sheet} {entries : List (String × Json)} {e : Entry s}
    (h : Entry.read s (.object entries) = .ok e) : e.row.givenCount = s.countIn entries := by
  obtain ⟨found, hobject, hrow⟩ := (Entry.read_eq_ok_iff _ e).1 h
  cases hobject
  exact Row.givenCount_of_read hrow

/-! ### The reading that is taken -/

namespace Reply

/-- How many fields the object under the key of the envelope has. -/
def countInside (r : Reply) (entries : List (String × Json)) : Nat :=
  match Json.lookup? entries r.key with
  | some (.object inner) => r.sheet.countIn inner
  | _ => 0

/-- The one of two readings that has more fields, the key of the envelope being one of them. -/
def preferred (r : Reply) (entries : List (String × Json)) (wrapped bare : Entry r.sheet) :
    Entry r.sheet :=
  if r.sheet.countIn entries ≤ 1 + r.countInside entries then wrapped else bare

variable {r : Reply} {entries : List (String × Json)} {wrapped bare : Entry r.sheet}

/-- What is made of the preferred reading comes from the envelope if that is the preferred one, or
if both readings come to the same. -/
theorem apply_preferred_eq_iff {α : Type} (f : Entry r.sheet → α) :
    f (r.preferred entries wrapped bare) = f wrapped ↔
      r.sheet.countIn entries ≤ 1 + r.countInside entries ∨ f bare = f wrapped := by
  unfold preferred
  by_cases hcount : r.sheet.countIn entries ≤ 1 + r.countInside entries
  · simp [hcount]
  · simp [hcount]

theorem givenCount_of_readEnvelope (h : r.readEnvelope (.object entries) = .ok wrapped) :
    wrapped.row.givenCount = r.countInside entries := by
  obtain ⟨v, hlookup, hread⟩ := (r.readEnvelope_eq_ok_iff entries wrapped).1 h
  obtain ⟨inner, rfl, -⟩ := (Entry.read_eq_ok_iff v wrapped).1 hread
  rw [countInside, hlookup, Entry.givenCount_of_read hread]

/-- A reply that can be read both ways is taken for the reading with more fields. -/
theorem read_of_both (hwrapped : r.readEnvelope (.object entries) = .ok wrapped)
    (hbare : Entry.read r.sheet (.object entries) = .ok bare) :
    ∃ sent, r.read (.object entries) = .ok sent ∧
      sent.entry = r.preferred entries wrapped bare := by
  rw [read, hwrapped, hbare]
  simp only [givenCount_of_readEnvelope hwrapped, Entry.givenCount_of_read hbare]
  by_cases hless : 1 + r.countInside entries < r.sheet.countIn entries
  · refine ⟨.bare bare, if_pos hless, ?_⟩
    rw [preferred, if_neg (Nat.not_le.2 hless)]
    rfl
  · refine ⟨.enveloped wrapped, if_neg hless, ?_⟩
    rw [preferred, if_pos (Nat.not_lt.1 hless)]
    rfl

theorem decode_of_both (hwrapped : r.readEnvelope (.object entries) = .ok wrapped)
    (hbare : Entry.read r.sheet (.object entries) = .ok bare) {body : ByteArray}
    (hbody : Json.decode? body = some (.object entries)) :
    ∃ sent, r.decode body = .ok sent ∧ sent.entry = r.preferred entries wrapped bare := by
  obtain ⟨sent, hread, hentry⟩ := read_of_both hwrapped hbare
  refine ⟨sent, ?_, hentry⟩
  rw [decode, hbody]
  simp only [hread]
  rfl

end Reply

/-! ### What a call gives -/

namespace Client

theorem readWorkspace_of_decode {response : Response} {sent : Sent .workspace}
    (h : Reply.workspace.decode response.body = .ok sent) :
    Call.readWorkspace response = .ok (Workspace.ofEntry sent.entry) := by
  rw [Call.readWorkspace, Call.readable, h]
  rfl

theorem readTask_of_decode {response : Response} {sent : Sent .task}
    (h : Reply.task.decode response.body = .ok sent) :
    Call.readTask response = .ok (Task.ofEntry sent.entry) := by
  rw [Call.readTask, Call.readable, h]
  rfl

/-- A call that reads its success from a reply gives what is made of the preferred reading. -/
theorem run_preferred {α : Type} {r : Reply} {c : Client} {call : Call α}
    {read : Response → Except ApiError α} {f : Entry r.sheet → α}
    (hcall : call.conclude = Call.concluding read)
    (hread : ∀ response sent, r.decode response.body = .ok sent →
      read response = .ok (f sent.entry))
    {response : Response} {entries : List (String × Json)}
    (hsucceeds : c.Succeeds call.order response entries) {wrapped bare : Entry r.sheet}
    (hwrapped : r.readEnvelope (.object entries) = .ok wrapped)
    (hbare : Entry.read r.sheet (.object entries) = .ok bare) (rest : List Reaction) :
    (c.run call (.respond response :: rest)).result = .ok (f (r.preferred entries wrapped bare)) ∧
      ((c.run call (.respond response :: rest)).result = .ok (f wrapped) ↔
        r.sheet.countIn entries ≤ 1 + r.countInside entries ∨ f bare = f wrapped) := by
  have hvalue : ∀ decoded : Response, Json.decode? decoded.body = some (.object entries) →
      read decoded = .ok (f (r.preferred entries wrapped bare)) := by
    intro decoded hbody
    obtain ⟨sent, hdecode, hentry⟩ := Reply.decode_of_both hwrapped hbare hbody
    rw [hread decoded sent hdecode, hentry]
  have hresult := hsucceeds.run_result hcall hvalue rest
  refine ⟨hresult, ?_⟩
  rw [hresult, Except.ok.injEq]
  exact Reply.apply_preferred_eq_iff f

/-- **A call gives the enveloped object exactly if the reply has at most one field more** than that
object has, or if the bare one is no other; otherwise it gives the bare one.  This is so for the
creation of a workspace and for every call about one task. -/
theorem replies_read_by_count (c : Client) :
    (∀ w response entries rest (wrapped bare : Entry .workspace),
      c.Succeeds (Call.createWorkspace w).order response entries →
      Model.workspaceEnvelope.read (.object entries) = .ok wrapped →
      (Model.entry .workspace).read (.object entries) = .ok bare →
        (c.run (Call.createWorkspace w) (.respond response :: rest)).result =
          .ok (Workspace.ofEntry (Reply.workspace.preferred entries wrapped bare)) ∧
        ((c.run (Call.createWorkspace w) (.respond response :: rest)).result =
            .ok (Workspace.ofEntry wrapped) ↔
          Sheet.workspace.countIn entries ≤ 1 + Reply.workspace.countInside entries ∨
            Workspace.ofEntry bare = Workspace.ofEntry wrapped)) ∧
    ∀ workspaceId taskId t, ∀ call ∈ [Call.createTask workspaceId t,
        Call.getTask workspaceId taskId, Call.updateTask workspaceId taskId t],
      ∀ response entries rest (wrapped bare : Entry .task),
        c.Succeeds call.order response entries →
        Model.taskEnvelope.read (.object entries) = .ok wrapped →
        (Model.entry .task).read (.object entries) = .ok bare →
          (c.run call (.respond response :: rest)).result =
            .ok (Task.ofEntry (Reply.task.preferred entries wrapped bare)) ∧
          ((c.run call (.respond response :: rest)).result = .ok (Task.ofEntry wrapped) ↔
            Sheet.task.countIn entries ≤ 1 + Reply.task.countInside entries ∨
              Task.ofEntry bare = Task.ofEntry wrapped) := by
  constructor
  · intro w response entries rest wrapped bare hsucceeds hwrapped hbare
    exact run_preferred (r := .workspace) rfl (fun _ _ => readWorkspace_of_decode) hsucceeds
      hwrapped hbare rest
  · intro workspaceId taskId t call hcall response entries rest wrapped bare hsucceeds hwrapped
      hbare
    have hconclude : call.conclude = Call.concluding Call.readTask := by
      simp only [List.mem_cons, List.not_mem_nil, or_false] at hcall
      rcases hcall with rfl | rfl | rfl <;> rfl
    exact run_preferred (r := .task) hconclude (fun _ _ => readTask_of_decode) hsucceeds hwrapped
      hbare rest

/-- A response with a status and the text of an object. -/
def answering (status : Nat) (entries : List (String × Json)) : Response :=
  ⟨status, [], (Json.compact (.object entries)).toUTF8⟩

theorem decoded_answering (status : Nat) (entries : List (String × Json)) :
    (answering status entries).decoded = .ok (answering status entries) :=
  Response.decoded_of_codings rfl

theorem decode?_answering (status : Nat) {entries : List (String × Json)}
    (hlegible : (Json.object entries).IsLegible)
    (hlevel : (Json.object entries).level ≤ Json.maxDepth) :
    Json.decode? (answering status entries).body = some (.object entries) :=
  Json.decode?_compact hlegible hlevel

/-- A task in an envelope that has one field more than the task, which says nothing. -/
def besideTask : List (String × Json) :=
  [("id", .text "r1"), ("workspaceId", .text "w0"), ("status", .text "complete"),
    ("createdAt", .null), ("task", .object
      [("id", .text "t1"), ("workspaceId", .text "w1"), ("status", .text "to_do")])]

/-- With one field more, a field without a value counted, the envelope is still preferred. -/
theorem replies_read_by_count_even :
    Sheet.task.countIn besideTask = 4 ∧ Reply.task.countInside besideTask = 3 ∧
      (({} : Client).run (Call.getTask "w1" "t1") [.respond (answering 200 besideTask)]).result =
        .ok ⟨"t1", "w1", .toDo, "", none, none, none, none⟩ := by
  refine ⟨by decide, by decide, ?_⟩
  have hbody : Json.decode? (answering 200 besideTask).body = some (.object besideTask) :=
    decode?_answering 200 (by simp [besideTask, Json.IsLegible, Json.HasLegible]) (by decide)
  have hresult := (replies_read_by_count {}).2 "w1" "t1" ⟨"", .toDo, .llm, ""⟩
    (Call.getTask "w1" "t1") (by simp) (answering 200 besideTask) besideTask [] _ _
    ⟨⟨_, rfl⟩, by decide, _, decoded_answering 200 besideTask, hbody⟩ rfl rfl
  exact hresult.1

/-- A workspace in an envelope that says about itself when it was made. -/
def besideWorkspace : List (String × Json) :=
  [("id", .text "r1"), ("created", .text "t0"), ("updated", .text "t1"),
    ("workspace", .object [("id", .text "w1")])]

/-- A workspace that is created and comes in an envelope is passed over for what stands beside
it. -/
theorem createWorkspace_takes_bare :
    ∃ wrapped bare : Entry .workspace,
      ({} : Client).Succeeds (Call.createWorkspace ⟨"p", "/p"⟩).order
        (answering 201 besideWorkspace) besideWorkspace ∧
      Model.workspaceEnvelope.read (.object besideWorkspace) = .ok wrapped ∧
      (Model.entry .workspace).read (.object besideWorkspace) = .ok bare ∧
      (({} : Client).run (Call.createWorkspace ⟨"p", "/p"⟩)
        [.respond (answering 201 besideWorkspace)]).result = .ok (Workspace.ofEntry bare) ∧
      Workspace.ofEntry bare = ⟨"r1", none, none, some "t0", some "t1"⟩ ∧
      Workspace.ofEntry wrapped = ⟨"w1", none, none, none, none⟩ := by
  have hbody : Json.decode? (answering 201 besideWorkspace).body = some (.object besideWorkspace) :=
    decode?_answering 201 (by simp [besideWorkspace, Json.IsLegible, Json.HasLegible]) (by decide)
  have hsucceeds : ({} : Client).Succeeds (Call.createWorkspace ⟨"p", "/p"⟩).order
      (answering 201 besideWorkspace) besideWorkspace :=
    ⟨⟨_, rfl⟩, by decide, _, decoded_answering 201 besideWorkspace, hbody⟩
  have hrun := run_preferred (r := .workspace) rfl (fun _ _ => readWorkspace_of_decode) hsucceeds
    rfl rfl []
  exact ⟨_, _, hsucceeds, rfl, rfl, hrun.1, rfl, rfl⟩

end Client

end WorkspaceWatch
