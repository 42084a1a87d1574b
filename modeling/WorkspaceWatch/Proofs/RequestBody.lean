/-
**What the bodies of requests say.**

A request to create a workspace or a task, or to change a task, carries an object with one entry
for each field, under the names on the wire.  The daemon reads from its bytes what the client
wrote, whatever characters the texts are made of: only the values of such objects are written, and
those are texts.

Main definitions:

* `WorkspaceWatch.Request.Carries` — the body of a request, its length and its keys.

Main results:

* `WorkspaceWatch.Row.decode?_dump` — an object written from a row is read back from its bytes;
* `WorkspaceWatch.Row.map_fst_dump` — the keys of an object with every field;
* `WorkspaceWatch.Client.run_carries` — what a request carries is the written body of its order;
* `WorkspaceWatch.requestBodies_read_back` — **the daemon reads what the client asked for**.
-/

import WorkspaceWatch.Proofs.Dump
import WorkspaceWatch.Proofs.Exchange
import WorkspaceWatch.Proofs.Written

set_option autoImplicit false

namespace WorkspaceWatch

/-! ### The bytes of an object written from a row -/

theorem Kind.dump_eq_null_or_text (k : Kind) (x : k.Value) :
    k.dump x = .null ∨ ∃ s, k.dump x = .text s := by
  cases k with
  | plain c => exact .inr ⟨c.word x, c.dump_eq_text x⟩
  | optional c =>
      cases x with
      | none => exact .inl rfl
      | some x => exact .inr ⟨c.word x, c.dump_eq_text x⟩

theorem Kind.isLegible_dump (k : Kind) (x : k.Value) : (k.dump x).IsLegible := by
  rcases k.dump_eq_null_or_text x with h | ⟨s, h⟩ <;> rw [h] <;> trivial

theorem Kind.level_dump (k : Kind) (x : k.Value) : (k.dump x).level = 0 := by
  rcases k.dump_eq_null_or_text x with h | ⟨s, h⟩ <;> rw [h] <;> rfl

namespace Row

variable {fs : List Field}

theorem hasLegible_dump (options : DumpOptions) (r : Row fs) :
    Json.HasLegible (r.dump options) := by
  induction r with
  | nil => trivial
  | @cons f fs cell rest ih =>
      simp only [dump]
      split
      · exact ⟨f.kind.isLegible_dump cell.value, ih⟩
      · exact ih

theorem levelEntries_dump (options : DumpOptions) (r : Row fs) :
    Json.levelEntries (r.dump options) = 0 := by
  induction r with
  | nil => rfl
  | @cons f fs cell rest ih =>
      simp only [dump]
      split
      · rw [Json.levelEntries, f.kind.level_dump, ih, Nat.max_self]
      · exact ih

/-- **An object written from a row is read back from its bytes.** -/
theorem decode?_dump (options : DumpOptions) (r : Row fs) :
    Json.decode? (Json.compact (.object (r.dump options))).toUTF8 =
      some (.object (r.dump options)) := by
  refine Json.decode?_compact (r.hasLegible_dump options) ?_
  calc Json.level (.object (r.dump options))
      ≤ 1 + Json.levelEntries (r.dump options) := Json.level_object_le _
    _ = 1 := by rw [r.levelEntries_dump options]
    _ ≤ Json.maxDepth := by decide

/-- **If nothing is left out, every field stands under its name on the wire.** -/
theorem map_fst_dump (r : Row fs) :
    (r.dump { wireNames := true }).map Prod.fst = fs.map Field.wire := by
  induction r with
  | nil => rfl
  | @cons f fs cell rest ih =>
      have hkeeps : DumpOptions.keeps { wireNames := true } cell.given (f.kind.dump cell.value) =
          true := rfl
      have hkey : DumpOptions.key { wireNames := true } f = f.wire := rfl
      simp only [dump, hkeeps, if_true, List.map_cons, hkey, ih]

end Row

/-! ### What a request carries -/

/-- A request carries a body: an object with the given keys, sent with its length. -/
structure Request.Carries (request : Request) (keys : List String) (body : ByteArray) : Prop where
  /-- The body is sent. -/
  bytes : request.body?.map String.toUTF8 = some body
  /-- Its length is that of its bytes. -/
  length : request.contentLength? = some body.size
  /-- It is an object with the keys and no others. -/
  keys : ∃ entries, Json.decode? body = some (.object entries) ∧ entries.map Prod.fst = keys

namespace Client

/-- **What a request carries is the written body of its order**: an object with every field under
its name on the wire. -/
theorem run_carries {α : Type} {call : Call α} {fs : List Field} {r : Row fs}
    (horder : call.order.body? = some (.object (r.dump { wireNames := true }))) (c : Client)
    (reactions : List Reaction) {request : Request}
    (h : request ∈ (c.run call reactions).request?) :
    request.Carries (fs.map Field.wire)
      (Json.compact (.object (r.dump { wireNames := true }))).toUTF8 := by
  -- the body depends on the order alone, not on the client or on what the daemon does
  have hbody := (request_eq_ok (request_of_mem_run h)).2.2
  rw [horder, Option.map_some] at hbody
  refine ⟨?_, ?_, _, r.decode?_dump _, r.map_fst_dump⟩
  · rw [hbody, Option.map_some]
  · rw [Request.contentLength?, hbody, Option.map_some]
    rfl

end Client

/-! ### What the daemon reads -/

theorem Sheet.isFree_workspaceCreate : Sheet.workspaceCreate.IsFree := fun _ => rfl

theorem Sheet.isFree_taskRequest : Sheet.taskRequest.IsFree := fun _ => rfl

/-- The body written from a row is read as the row, every field given. -/
theorem Entry.exists_decode_dump {s : Sheet} (hs : s.IsFree) (options : DumpOptions)
    (r : Row s.fields) :
    ∃ e, (Model.entry s).decode (Json.compact (.object (r.full.dump options))).toUTF8 = .ok e ∧
      (Entry.row e).full = r.full.full := by
  have hfaithful := r.isFaithful_full s.fillsNull_fields
  obtain ⟨e, hread, hfull⟩ := Entry.exists_read_dump_alone hs hfaithful options
  refine ⟨e, ((Model.entry s).decode_eq_ok_iff _ e).2 ⟨_, r.full.decode?_dump options, ?_⟩, hfull⟩
  rw [Model.read_entry]
  exact hread

theorem WorkspaceCreate.ofRow_full (r : Row Sheet.workspaceCreate.fields) :
    ofRow r.full = ofRow r := by
  rcases r with _ | ⟨name, _ | ⟨directory, ⟨⟩⟩⟩
  rfl

theorem TaskRequest.ofRow_full (r : Row Sheet.taskRequest.fields) : ofRow r.full = ofRow r := by
  rcases r with _ | ⟨description, _ | ⟨status, _ | ⟨agentType, _ | ⟨flowType, ⟨⟩⟩⟩⟩⟩
  rfl

/-- **The daemon reads what the client asked for.**  Whoever asks and whatever the identifiers are,
a request to create a workspace carries one body for a name and a directory, and a request to
create or to change a task carries one body for what the task is to be; from its bytes, these are
read back. -/
theorem requestBodies_read_back :
    (∀ w : WorkspaceCreate, ∃ body,
      (∀ (c : Client) reactions, ∀ request ∈ (c.run (Call.createWorkspace w) reactions).request?,
        request.Carries ["name", "localRepoDir"] body) ∧
      ∃ e, (Model.entry .workspaceCreate).decode body = .ok e ∧
        WorkspaceCreate.ofRow (Entry.row e) = w) ∧
    ∀ t : TaskRequest, ∃ body,
      (∀ (c : Client) reactions workspaceId,
        ∀ request ∈ (c.run (Call.createTask workspaceId t) reactions).request?,
          request.Carries ["description", "status", "agentType", "flowType"] body) ∧
      (∀ (c : Client) reactions workspaceId taskId,
        ∀ request ∈ (c.run (Call.updateTask workspaceId taskId t) reactions).request?,
          request.Carries ["description", "status", "agentType", "flowType"] body) ∧
      ∃ e, (Model.entry .taskRequest).decode body = .ok e ∧ TaskRequest.ofEntry e = t := by
  constructor
  · intro w
    obtain ⟨e, hdecode, hfull⟩ :=
      Entry.exists_decode_dump Sheet.isFree_workspaceCreate { wireNames := true } w.toRow
    refine ⟨_, ?_, e, hdecode, ?_⟩
    · intro c reactions request h
      exact Client.run_carries (r := w.toRow) rfl c reactions h
    · have hrow : WorkspaceCreate.ofRow (Entry.row e).full = w := by rw [hfull]; rfl
      rwa [WorkspaceCreate.ofRow_full] at hrow
  · intro t
    obtain ⟨e, hdecode, hfull⟩ :=
      Entry.exists_decode_dump Sheet.isFree_taskRequest { wireNames := true } t.toRow
    refine ⟨_, ?_, ?_, e, hdecode, ?_⟩
    · intro c reactions workspaceId request h
      exact Client.run_carries (r := t.toRow) rfl c reactions h
    · intro c reactions workspaceId taskId request h
      exact Client.run_carries (r := t.toRow) rfl c reactions h
    · have hrow : TaskRequest.ofRow (Entry.row e).full = t := by rw [hfull]; rfl
      rwa [TaskRequest.ofRow_full] at hrow

/-- A name with a quote, a line break and a character beyond the basic plane is read back. -/
theorem requestBodies_read_back_escaped :
    ∃ request body, (({} : Client).run (Call.createWorkspace ⟨"a\"\n𝄞", "/p\\é"⟩) []).request? =
        some request ∧
      request.Carries ["name", "localRepoDir"] body ∧
      ∃ e, (Model.entry .workspaceCreate).decode body = .ok e ∧
        WorkspaceCreate.ofRow (Entry.row e) = ⟨"a\"\n𝄞", "/p\\é"⟩ := by
  obtain ⟨body, hcarries, hread⟩ := requestBodies_read_back.1 ⟨"a\"\n𝄞", "/p\\é"⟩
  exact ⟨_, body, rfl, hcarries {} [] _ rfl, hread⟩

end WorkspaceWatch
