/-
**Old and new daemons are read alike.**

A daemon answers with an object under a key of its own or with the bare object, and may add keys
that a client does not know.  The two forms never mix: an object in an envelope lacks a field that
a bare one must have, and a bare object has nothing that could be read under the key of the
envelope.  So a reply is read as the object that was written, whichever of the ways to write it
the daemon has chosen.

Main definitions:

* `WorkspaceWatch.Reply.Carries` — the forms in which a reply carries an object;
* `WorkspaceWatch.Client.Succeeds` — an order is sent, and answered with an object.

Main results:

* `WorkspaceWatch.Entry.read_ne_ok_of_absent` — an object without a required field is not read;
* `WorkspaceWatch.Reply.Carries.exists_read` — **a reply is read as the object it carries**;
* `WorkspaceWatch.Client.replies_read_alike` — **a call gives the object that its reply carries**.
-/

import WorkspaceWatch.Proofs.Dump
import WorkspaceWatch.Proofs.Exchange
import WorkspaceWatch.Proofs.Listing
import WorkspaceWatch.Proofs.Written

set_option autoImplicit false

namespace WorkspaceWatch

/-! ### Objects without a required field -/

theorem Field.find?_eq_none {f : Field} {entries : List (String × Json)}
    (h : ∀ e ∈ entries, e.1 ∉ f.names) : f.find? entries = none := by
  have hlookup : ∀ n ∈ f.names, Json.lookup? entries n = none := by
    intro n hn
    rw [Json.lookup?_eq_none_iff]
    rintro e he rfl
    exact h e he hn
  rw [Field.find?, hlookup f.wire (by simp [Field.names]), hlookup f.name (by simp [Field.names])]
  rfl

/-- An object without a required field is not read. -/
theorem Entry.read_ne_ok_of_absent {s : Sheet} (hs : s.IsFree) {f : Field} (hf : f ∈ s.fields)
    (hrequired : f.standIn? = none) {entries : List (String × Json)}
    (h : ∀ e ∈ entries, e.1 ∉ f.names) (e : Entry s) : Entry.read s (.object entries) ≠ .ok e := by
  -- an object that is read has no issues, but this field would have one
  intro hread
  have hissue : f.issue? entries = some ⟨[.key f.wire], .missing⟩ := by
    simp [Field.issue?, Field.find?_eq_none h, hrequired]
  have hnone := Entry.issues_read hs (.object entries)
  rw [hread, Checked.issues_ok, Sheet.issues, eq_comm, List.flatMap_eq_nil_iff] at hnone
  have hempty := hnone f hf
  rw [hissue] at hempty
  cases hempty

namespace Reply

/-! ### The two forms of a reply -/

/-- Entries that a reply may have besides its object: none is under the key of the envelope or the
name of a field. -/
def Foreign (r : Reply) (others : List (String × Json)) : Prop :=
  ∀ e ∈ others, e.1 ≠ r.key ∧ ∀ f ∈ r.sheet.fields, e.1 ∉ f.names

/-- The forms in which a reply carries an object, in any order of its entries: under the key of the
envelope, bare, or bare beside something else under that key. -/
inductive Carries (r : Reply) (e : Entry r.sheet) (entries : List (String × Json)) : Prop
  | enveloped {options : DumpOptions} {others : List (String × Json)} :
      r.Foreign others → entries.Perm ((r.key, e.dump options) :: others) → Carries r e entries
  | bare {options : DumpOptions} {others : List (String × Json)} :
      r.Foreign others → entries.Perm (e.row.dump options ++ others) → Carries r e entries
  | beside {options : DumpOptions} {others : List (String × Json)} {v : Json} :
      r.Foreign others → (∀ e', Entry.read r.sheet v ≠ .ok e') →
        entries.Perm (e.row.dump options ++ (r.key, v) :: others) → Carries r e entries

variable {r : Reply} {e : Entry r.sheet} {entries others : List (String × Json)}

theorem isFree_sheet (r : Reply) : r.sheet.IsFree := by
  cases r with
  | workspace => exact Sheet.isFree_workspace
  | task => exact Sheet.isFree_task

theorem key_notMem_names (r : Reply) : ∀ f ∈ r.sheet.fields, r.key ∉ f.names := by
  cases r <;> decide

/-- The object of a reply has an identifier. -/
theorem id_mem_fields (r : Reply) : Field.text "id" "id" ∈ r.sheet.fields := by
  cases r <;> exact List.mem_cons_self

theorem ne_key_of_mem_dump {options : DumpOptions} {x : String × Json}
    (h : x ∈ e.row.dump options) : x.1 ≠ r.key := by
  obtain ⟨f, hf, hx⟩ := Row.exists_field_of_mem_dump h
  intro hkey
  refine r.key_notMem_names f hf ?_
  rw [← hkey, hx]
  exact options.key_mem_names f

/-! ### What is read -/

theorem readEnvelope_eq_ok_iff (r : Reply) (entries : List (String × Json)) (e : Entry r.sheet) :
    r.readEnvelope (.object entries) = .ok e ↔
      ∃ v, Json.lookup? entries r.key = some v ∧ Entry.read r.sheet v = .ok e :=
  Shape.required_eq_ok_iff entries r.key (Entry.read r.sheet) e

theorem read_of_readEnvelope {v : Json} (h : r.readEnvelope v = .ok e)
    (hbare : ∀ e', Entry.read r.sheet v ≠ .ok e') : r.read v = .ok (.enveloped e) := by
  rw [Reply.read, h, Checked.eq_error_of_issues hbare]

theorem read_of_read {v : Json} (h : Entry.read r.sheet v = .ok e)
    (henvelope : ∀ e', r.readEnvelope v ≠ .ok e') : r.read v = .ok (.bare e) := by
  rw [Reply.read, h, Checked.eq_error_of_issues henvelope]

/-- **An object in an envelope is not read as a bare one**: it has no identifier. -/
theorem read_ne_ok_of_enveloped {v : Json} (hothers : r.Foreign others)
    (hperm : entries.Perm ((r.key, v) :: others)) (e : Entry r.sheet) :
    Entry.read r.sheet (.object entries) ≠ .ok e := by
  refine Entry.read_ne_ok_of_absent r.isFree_sheet r.id_mem_fields rfl ?_ e
  intro x hx
  rcases List.mem_cons.1 (hperm.mem_iff.1 hx) with rfl | hx
  · exact r.key_notMem_names _ r.id_mem_fields
  · exact (hothers x hx).2 _ r.id_mem_fields

/-- **A bare object is not read as one in an envelope**, whatever unreadable value stands under the
key of the envelope. -/
theorem readEnvelope_ne_ok_of_bare {options : DumpOptions} {beside : List (String × Json)}
    (hperm : entries.Perm (e.row.dump options ++ beside))
    (hbeside : ∀ v, (r.key, v) ∈ beside → ∀ e', Entry.read r.sheet v ≠ .ok e')
    (e' : Entry r.sheet) : r.readEnvelope (.object entries) ≠ .ok e' := by
  rw [ne_eq, readEnvelope_eq_ok_iff]
  rintro ⟨v, hlookup, hread⟩
  rcases List.mem_append.1 (hperm.mem_iff.1 (Json.mem_of_lookup? hlookup)) with hmem | hmem
  · exact ne_key_of_mem_dump hmem rfl
  · exact hbeside v hmem e' hread

/-- A bare object is read beside entries that have no name of a field. -/
theorem exists_read_of_bare {options : DumpOptions} {beside : List (String × Json)}
    (he : e.row.IsFaithful) (hperm : entries.Perm (e.row.dump options ++ beside))
    (hnames : ∀ x ∈ beside, ∀ f ∈ r.sheet.fields, x.1 ∉ f.names)
    (hbeside : ∀ v, (r.key, v) ∈ beside → ∀ e', Entry.read r.sheet v ≠ .ok e') :
    ∃ sent, r.read (.object entries) = .ok sent ∧ sent.entry.row.full = e.row.full := by
  obtain ⟨e', hread, hfull⟩ := Entry.exists_read_dump r.isFree_sheet he hperm hnames
  exact ⟨.bare e', read_of_read hread (readEnvelope_ne_ok_of_bare hperm hbeside), hfull⟩

/-- **A reply is read as the object it carries.** -/
theorem Carries.exists_read (h : r.Carries e entries) (he : e.row.IsFaithful) :
    ∃ sent, r.read (.object entries) = .ok sent ∧ sent.entry.row.full = e.row.full := by
  cases h with
  | @enveloped options others hothers hperm =>
      -- inside the envelope the object stands alone
      obtain ⟨e', hread, hfull⟩ := Entry.exists_read_dump_alone r.isFree_sheet he options
      have hlookup : Json.lookup? entries r.key = some (e.dump options) := by
        refine Json.lookup?_of_unique (hperm.mem_iff.2 List.mem_cons_self) ?_
        intro w hw
        rcases List.mem_cons.1 (hperm.mem_iff.1 hw) with heq | hw
        · exact (Prod.mk.inj heq).2
        · exact absurd rfl (hothers _ hw).1
      have henvelope := (r.readEnvelope_eq_ok_iff entries e').2 ⟨_, hlookup, hread⟩
      exact ⟨.enveloped e', read_of_readEnvelope henvelope (read_ne_ok_of_enveloped hothers hperm),
        hfull⟩
  | @bare options others hothers hperm =>
      refine exists_read_of_bare he hperm (fun x hx => (hothers x hx).2) ?_
      intro v hv
      exact absurd rfl (hothers _ hv).1
  | @beside options others v hothers hv hperm =>
      -- what stands under the key of the envelope is one more entry that no field has
      refine exists_read_of_bare he hperm ?_ ?_
      · intro x hx
        rcases List.mem_cons.1 hx with rfl | hx
        · exact r.key_notMem_names
        · exact (hothers x hx).2
      · intro w hw
        rcases List.mem_cons.1 hw with heq | hw
        · rw [(Prod.mk.inj heq).2]
          exact hv
        · exact absurd rfl (hothers _ hw).1

/-- An entry that was read is carried by the body of a reply. -/
theorem Carries.exists_decode (h : r.Carries e entries) {v : Json} (he : Entry.read r.sheet v = .ok e)
    {body : ByteArray} (hbody : Json.decode? body = some (.object entries)) :
    ∃ sent, r.decode body = .ok sent ∧ sent.entry.row.full = e.row.full := by
  obtain ⟨found, -, hrow⟩ := (Entry.read_eq_ok_iff v e).1 he
  obtain ⟨sent, hread, hfull⟩ :=
    h.exists_read (Row.isFaithful_of_read r.sheet.fillsNull_fields hrow)
  refine ⟨sent, ?_, hfull⟩
  simp only [decode, hbody, hread]
  rfl

end Reply

/-! ### What a call gives -/

theorem Workspace.ofEntry_eq {e e' : Entry .workspace} (h : e'.row.full = e.row.full) :
    Workspace.ofEntry e' = Workspace.ofEntry e := by
  have hrow := (Workspace.ofRow_eq_iff e.row _).1 rfl
  exact (Workspace.ofRow_eq_iff e'.row _).2 (h.trans hrow)

theorem Task.ofEntry_eq {e e' : Entry .task} (h : e'.row.full = e.row.full) :
    Task.ofEntry e' = Task.ofEntry e := by
  have hrow := (Task.ofRow_eq_iff e.row _).1 rfl
  exact (Task.ofRow_eq_iff e'.row _).2 (h.trans hrow)

namespace Client

/-- An order is sent and answered with success, and the body of the response, out of its coding, is
an object with the given entries. -/
structure Succeeds (c : Client) (o : Order) (response : Response)
    (entries : List (String × Json)) : Prop where
  /-- The order can be sent. -/
  sent : ∃ request, c.request o = .ok request
  /-- The daemon reports success. -/
  status : 200 ≤ response.status ∧ response.status ≤ 299
  /-- The body is the text of the object. -/
  body : ∃ decoded, response.decoded = .ok decoded ∧
    Json.decode? decoded.body = some (.object entries)

variable {response : Response} {entries : List (String × Json)}

/-- A call that is answered with success has the value that is read from the body. -/
theorem Succeeds.run_result {α : Type} {c : Client} {call : Call α}
    {read : Response → Except ApiError α} (hcall : call.conclude = Call.concluding read)
    (h : c.Succeeds call.order response entries) {x : α}
    (hread : ∀ decoded : Response, Json.decode? decoded.body = some (.object entries) →
      read decoded = .ok x)
    (rest : List Reaction) : (c.run call (.respond response :: rest)).result = .ok x := by
  obtain ⟨request, hrequest⟩ := h.sent
  obtain ⟨decoded, hdecoded, hbody⟩ := h.body
  have hstatus : 200 ≤ decoded.status ∧ decoded.status ≤ 299 := by
    rw [Response.status_of_decoded hdecoded]
    exact h.status
  exact run_result_of_success hcall hrequest hdecoded hstatus (hread decoded hbody) rest

theorem readWorkspace_eq_ok {e : Entry .workspace} {v : Json} (he : Entry.read .workspace v = .ok e)
    (h : Reply.workspace.Carries e entries)
    (hbody : Json.decode? response.body = some (.object entries)) :
    Call.readWorkspace response = .ok (Workspace.ofEntry e) := by
  obtain ⟨sent, hdecode, hfull⟩ := h.exists_decode he hbody
  rw [Call.readWorkspace, Call.readable, hdecode]
  exact congrArg _ (Workspace.ofEntry_eq hfull)

theorem readTask_eq_ok {e : Entry .task} {v : Json} (he : Entry.read .task v = .ok e)
    (h : Reply.task.Carries e entries)
    (hbody : Json.decode? response.body = some (.object entries)) :
    Call.readTask response = .ok (Task.ofEntry e) := by
  obtain ⟨sent, hdecode, hfull⟩ := h.exists_decode he hbody
  rw [Call.readTask, Call.readable, hdecode]
  exact congrArg _ (Task.ofEntry_eq hfull)

/-- **A call gives the object that its reply carries**, in whichever form the daemon wrote it and
whatever else it added.  This is so for the creation of a workspace and for every call about one
task. -/
theorem replies_read_alike :
    (∀ (e : Entry .workspace) v, Entry.read .workspace v = .ok e →
      ∀ entries, Reply.workspace.Carries e entries → ∀ (c : Client) w response rest,
        c.Succeeds (Call.createWorkspace w).order response entries →
          (c.run (Call.createWorkspace w) (.respond response :: rest)).result =
            .ok (Workspace.ofEntry e)) ∧
    ∀ (e : Entry .task) v, Entry.read .task v = .ok e →
      ∀ entries, Reply.task.Carries e entries → ∀ (c : Client) workspaceId taskId t,
        ∀ call ∈ [Call.createTask workspaceId t, Call.getTask workspaceId taskId,
          Call.updateTask workspaceId taskId t], ∀ response rest,
            c.Succeeds call.order response entries →
              (c.run call (.respond response :: rest)).result = .ok (Task.ofEntry e) := by
  constructor
  · intro e v he entries h c w response rest hsucceeds
    exact hsucceeds.run_result rfl (fun _ hbody => readWorkspace_eq_ok he h hbody) rest
  · intro e v he entries h c workspaceId taskId t call hcall response rest hsucceeds
    have hconclude : call.conclude = Call.concluding Call.readTask := by
      simp only [List.mem_cons, List.not_mem_nil, or_false] at hcall
      rcases hcall with rfl | rfl | rfl <;> rfl
    exact hsucceeds.run_result hconclude (fun _ hbody => readTask_eq_ok he h hbody) rest

/-- A workspace comes in an envelope, without the fields that have no value and beside a key that no
client knows. -/
theorem replies_read_alike_enveloped :
    (({} : Client).run (Call.createWorkspace ⟨"p", "/p"⟩) [.respond ⟨201, [], (Json.compact (.object
      [("flows", .array []), ("workspace", .object
        [("id", .text "w1"), ("localRepoDir", .text "/p")])])).toUTF8⟩]).result =
          .ok ⟨"w1", none, some "/p", none, none⟩ := by
  let e : Entry .workspace := ⟨(⟨"w1", none, some "/p", none, none⟩ : Workspace).toRow, rfl⟩
  have hforeign : Reply.workspace.Foreign [("flows", .array [])] := by
    intro x hx
    rw [List.mem_singleton.1 hx]
    decide
  have hcarries : Reply.workspace.Carries e [("flows", .array []), ("workspace", .object
      [("id", .text "w1"), ("localRepoDir", .text "/p")])] :=
    @Reply.Carries.enveloped _ _ _ { wireNames := true, onlyPresent := true } _ hforeign
      (.swap _ _ _)
  refine replies_read_alike.1 e (e.dump {}) rfl _ hcarries {} ⟨"p", "/p"⟩ _ []
    ⟨⟨_, rfl⟩, by decide, _, rfl, ?_⟩
  exact Json.decode?_compact (by simp [Json.IsLegible, Json.HasLegible, Json.AreLegible]) (by decide)

end Client

end WorkspaceWatch
