/-
**Statuses as they are shown.**

A status is shown through the template of its kind.  Most templates are text with the identifier
put in at some places: chunks of literal text, each brace of them doubled, and fields that name the
identifier.  Such a template always renders, to its text with the identifier in the place of every
field, and the identifier is put in as it is, whatever braces and marks it holds.

Main definitions:

* `WorkspaceWatch.Template.Chunk` — literal text, or the field of the identifier;
* `WorkspaceWatch.Template.Chunk.written` — the template that chunks make up;
* `WorkspaceWatch.Template.Chunk.filled` — their text with an identifier put in.

Main results:

* `WorkspaceWatch.Template.Chunk.pieces_written` — a template of chunks has their pieces;
* `WorkspaceWatch.Template.Chunk.render_written` — it renders to its text filled in;
* `WorkspaceWatch.Status.render_default`, `WorkspaceWatch.Status.text_injective` — how a status is
  shown by default, and that it can be told from that;
* `WorkspaceWatch.Status.render_substitutes` — **showing a status substitutes and nothing else**.
-/

import WorkspaceWatch.Status.Basic

set_option autoImplicit false

namespace WorkspaceWatch

namespace Template

/-! ### Chunks -/

/-- A chunk of a template: text that stands for itself, or the field of the identifier. -/
inductive Chunk where
  | literal (text : String)
  | identifier
deriving DecidableEq, Repr

namespace Chunk

/-- The characters of the field of the identifier. -/
def fieldMarks : List Char := "\x7bworkspace_id\x7d".toList

/-- The characters of a chunk in a template. -/
def marks : Chunk → List Char
  | literal text => escape text.toList
  | identifier => fieldMarks

/-- The template that chunks make up. -/
def written (chunks : List Chunk) : String :=
  .ofList (chunks.flatMap marks)

/-- The pieces of a chunk. -/
def pieces : Chunk → List Piece
  | literal text => text.toList.map .literal
  | identifier => [.field ⟨"workspace_id".toList, none, [], false⟩]

/-- What stands in the place of a chunk. -/
def value (id : String) : Chunk → String
  | literal text => text
  | identifier => id

/-- The text of chunks with an identifier put in. -/
def filled (id : String) (chunks : List Chunk) : String :=
  String.join (chunks.map (value id))

end Chunk

/-! ### Reading a template of chunks -/

/-- The field of the identifier is read as one piece, whatever stands behind it. -/
theorem piecesFrom_fieldMarks_append (rest : List Char) (fuel : Nat) :
    piecesFrom (fuel + 1) (Chunk.fieldMarks ++ rest) = Chunk.identifier.pieces ++ piecesFrom fuel rest :=
  rfl

/-- Chunks are read one after another, as long as there is fuel for every character. -/
theorem Chunk.piecesFrom_marks (chunks : List Chunk) {fuel : Nat}
    (h : (chunks.flatMap marks).length ≤ fuel) :
    piecesFrom fuel (chunks.flatMap marks) = chunks.flatMap pieces := by
  induction chunks generalizing fuel with
  | nil => exact piecesFrom_nil fuel
  | cons chunk chunks ih =>
      rw [List.flatMap_cons, List.length_append] at h
      rw [List.flatMap_cons, List.flatMap_cons]
      cases chunk with
      | literal text =>
          -- a literal takes as much fuel as it has characters, which is no more than it has marks
          have hmarks := length_le_length_escape text.toList
          obtain ⟨more, rfl⟩ := Nat.exists_eq_add_of_le
            (Nat.le_trans hmarks (Nat.le_trans (Nat.le_add_right _ _) h))
          rw [marks] at h ⊢
          rw [piecesFrom_escape_append, ih (by omega), pieces]
      | identifier =>
          have hmarks : identifier.marks.length = 14 := rfl
          obtain ⟨more, rfl⟩ : ∃ more, fuel = more + 1 := ⟨fuel - 1, by omega⟩
          rw [marks, piecesFrom_fieldMarks_append, ih (by omega)]

/-- A template of chunks has their pieces. -/
theorem Chunk.pieces_written (chunks : List Chunk) :
    Template.pieces (written chunks).toList = chunks.flatMap pieces := by
  rw [written, String.toList_ofList]
  exact piecesFrom_marks chunks (Nat.le_refl _)

/-! ### Filling it in -/

/-- The pieces of a chunk are filled in with what stands in its place. -/
theorem Chunk.mapM_fill_pieces (id : String) (inner : List Char → Except TemplateError (List Char))
    (chunk : Chunk) : ∃ parts,
      chunk.pieces.mapM (fill [("workspace_id", id)] inner) = .ok parts ∧
        parts.flatten = (chunk.value id).toList := by
  cases chunk with
  | literal text => exact ⟨_, mapM_fill_literal _ inner _, flatten_map_singleton _⟩
  | identifier => exact ⟨[id.toList], rfl, List.append_nil _⟩

theorem Chunk.mapM_fill_flatMap (id : String) (inner : List Char → Except TemplateError (List Char))
    (chunks : List Chunk) : ∃ parts,
      (chunks.flatMap pieces).mapM (fill [("workspace_id", id)] inner) = .ok parts ∧
        parts.flatten = (filled id chunks).toList := by
  induction chunks with
  | nil => exact ⟨[], rfl, rfl⟩
  | cons chunk chunks ih =>
      obtain ⟨first, hfirst, hvalue⟩ := chunk.mapM_fill_pieces id inner
      obtain ⟨parts, hparts, hfilled⟩ := ih
      refine ⟨first ++ parts, ?_, ?_⟩
      · rw [List.flatMap_cons, List.mapM_append, hfirst, hparts]
        rfl
      · rw [List.flatten_append, hvalue, hfilled, filled, filled, List.map_cons, String.join_cons,
          String.toList_append]

/-- A template of chunks renders to its text with the identifier put in. -/
theorem Chunk.render_written (id : String) (chunks : List Chunk) :
    render [("workspace_id", id)] (written chunks) = .ok (filled id chunks) := by
  obtain ⟨parts, hparts, hfilled⟩ :=
    mapM_fill_flatMap id (expand [("workspace_id", id)] 1) chunks
  rw [render, expand, pieces_written, hparts, Except.map, hfilled, Except.map,
    String.ofList_toList]

end Template

/-! ### Statuses -/

namespace Status

/-- A status is shown through the default templates as its text. -/
theorem render_default (s : Status) : s.render (fun _ => none) = .ok s.text := by
  cases s with
  | unavailable => rfl
  | noWorkspace => rfl
  | found id =>
      exact Template.Chunk.render_written id [.literal "Found workspace ", .identifier]

/-- The first letter of its text tells the kind of a status. -/
theorem head?_text (s : Status) : s.text.toList.head? = some (match s.kind with
    | .daemonUnavailable => 'S'
    | .workspaceFound => 'F'
    | .noWorkspace => 'N') := by
  cases s with
  | unavailable => rfl
  | found id =>
      change ("Found workspace " ++ id).toList.head? = some 'F'
      rw [String.toList_append]
      rfl
  | noWorkspace => rfl

/-- Different statuses are shown as different texts. -/
theorem text_injective : Function.Injective text := by
  intro a b h
  have hkind : a.text.toList.head? = b.text.toList.head? := by rw [h]
  rw [head?_text, head?_text] at hkind
  cases a with
  | unavailable =>
      cases b with
      | unavailable => rfl
      | _ => simp [kind] at hkind
  | noWorkspace =>
      cases b with
      | noWorkspace => rfl
      | _ => simp [kind] at hkind
  | found id =>
      cases b with
      | found id' =>
          have htext : "Found workspace " ++ id = "Found workspace " ++ id' := h
          rw [(String.append_right_inj _).1 htext]
      | _ => simp [kind] at hkind

/-- Showing a status reads the template of its kind and no other. -/
theorem render_congr {s : Status} {templates others : StatusKind → Option String}
    (h : others s.kind = templates s.kind) : s.render others = s.render templates := by
  rw [render, render, h]

/-- A status whose kind has no template given is shown as its text. -/
theorem render_of_eq_none {s : Status} {templates : StatusKind → Option String}
    (h : templates s.kind = none) : s.render templates = .ok s.text := by
  rw [← s.render_default]
  exact (render_congr h.symm).symm

/-- **Showing a status substitutes and nothing else.**  The template of its kind alone matters.
Without one the status is shown by the default one, and as a text that no other status has.  A
template of chunks gives their text with the identifier in the place of every field, and an escaped
text gives itself. -/
theorem render_substitutes (s : Status) (templates : StatusKind → Option String) :
    (∀ others : StatusKind → Option String, others s.kind = templates s.kind →
      s.render others = s.render templates) ∧
    (templates s.kind = none →
      s.render templates = s.render (fun kind => some (defaultTemplate kind)) ∧
      s.render templates = .ok s.text ∧
      ∀ (s' : Status) (others : StatusKind → Option String), others s'.kind = none →
        s'.render others = s.render templates → s' = s) ∧
    (∀ chunks : List Template.Chunk, templates s.kind = some (Template.Chunk.written chunks) →
      s.render templates = .ok (Template.Chunk.filled (s.id?.getD "") chunks)) ∧
    ∀ text : String, templates s.kind = some (.ofList (Template.escape text.toList)) →
      s.render templates = .ok text := by
  refine ⟨fun others h => render_congr h, fun h => ⟨?_, render_of_eq_none h, ?_⟩, ?_, ?_⟩
  · rw [render, render, h]
    rfl
  · intro s' others h' hsame
    rw [render_of_eq_none h, render_of_eq_none h', Except.ok.injEq] at hsame
    exact text_injective hsame
  · intro chunks h
    rw [render, h]
    exact Template.Chunk.render_written _ chunks
  · intro text h
    rw [render, h, Option.getD_some, Template.render_escape, String.ofList_toList]

/-- An identifier that looks like a field with a conversion and a layout is put between doubled
braces as it is. -/
theorem render_substitutes_braced :
    let id := "\x7bworkspace_id\x7d!r:"
    let braced : StatusKind → Option String := fun kind =>
      if kind = .workspaceFound then some "\x7b\x7b\x7bworkspace_id\x7d\x7d\x7d" else none
    (found id).render braced = .ok ("\x7b" ++ id ++ "\x7d") ∧
      (found id).render (fun _ => braced .workspaceFound) = .ok ("\x7b" ++ id ++ "\x7d") ∧
      unavailable.render braced = .ok "Side is not running. Please run `side start`" ∧
      noWorkspace.render (fun _ => some "\x7b\x7b\x7b\x7bworkspace_id\x7d\x7d\x7d\x7d") =
        .ok "\x7b\x7bworkspace_id\x7d\x7d" := by
  intro id braced
  have hfound := (render_substitutes (found id) braced).2.2.1
    [.literal "\x7b", .identifier, .literal "\x7d"] (by decide)
  refine ⟨hfound, ?_, ?_, ?_⟩
  · rw [(render_substitutes (found id) braced).1 (fun _ => braced .workspaceFound) rfl, hfound]
    rfl
  · exact ((render_substitutes unavailable braced).2.1 (by decide)).2.1
  · exact (render_substitutes noWorkspace _).2.2.2 "\x7b\x7bworkspace_id\x7d\x7d" (by decide)

end Status

end WorkspaceWatch
