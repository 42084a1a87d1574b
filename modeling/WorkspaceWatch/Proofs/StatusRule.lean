/-
**The rule of a status.**

A status has an identifier exactly if a workspace was found.  The rule is looked at once, when the
status is built, after both fields were found to be right; and since a status is fixed, nothing
that is done with it afterwards can break it.

Main definitions:

* `WorkspaceWatch.Intake` — what an object is built from: a value in memory, or a body;
* `WorkspaceWatch.Intake.TellsStatus` — it gives a kind, and an identifier or none;
* `WorkspaceWatch.Status.toEntry`, `WorkspaceWatch.Status.keywords` — a status as an object, and
  the fields it is built from;
* `WorkspaceWatch.Status.Built` — the ways to come by a status;
* `WorkspaceWatch.Draft.Use`, `WorkspaceWatch.Draft.after` — what is done with an object.

Main results:

* `WorkspaceWatch.Intake.receive_of_goTogether`, `WorkspaceWatch.Intake.receive_of_breach`,
  `WorkspaceWatch.Intake.receive_of_not_tells` — when a status is built, and what is wrong when it is
  not;
* `WorkspaceWatch.Draft.after_of_isFixed`, `WorkspaceWatch.Draft.afterAll_of_isFixed` — one use
  leaves a fixed object as it is, and so does every number of them;
* `WorkspaceWatch.Status.rule_lasts` — **a status keeps its rule**.
-/

import WorkspaceWatch.Model.Draft
import WorkspaceWatch.Proofs.Schema
import WorkspaceWatch.Status.Background

set_option autoImplicit false

namespace WorkspaceWatch

/-! ### What an object is built from -/

/-- What an object is built from: a value in memory, such as that of the fields by name, or the
bytes of a body. -/
inductive Intake where
  | value (v : Json)
  | body (bytes : ByteArray)

namespace Intake

/-- The JSON value that was given, if it is one. -/
def json? : Intake → Option Json
  | value v => some v
  | body bytes => Json.decode? bytes

/-- How it came. -/
def source : Intake → Source
  | value _ => .value
  | body _ => .text

/-- The object that is built from it, or every issue. -/
def receive (m : Model) : Intake → Except Rejection m.Value
  | value v => m.ofJson v
  | body bytes => m.decode bytes

/-- The issues of its fields, each looked at for itself. -/
def issues (s : Sheet) (i : Intake) : List Issue :=
  match i.json? with
  | some v => s.issues v
  | none => [⟨[], .notJson⟩]

/-- It gives a kind, and an identifier or none; other keys do not matter. -/
def TellsStatus (i : Intake) (kind : StatusKind) (id? : Option String) : Prop :=
  ∃ entries, i.json? = some (.object entries) ∧
    Json.lookup? entries "kind" = some (.text kind.text) ∧
    HoldsText? (Json.lookup? entries "workspace_id") id?

theorem receive_of_json {m : Model} {i : Intake} {v : Json} (h : i.json? = some v) :
    i.receive m = (m.read v).mapError (⟨m.title, i.source, ·⟩) := by
  cases i with
  | value v' =>
      cases h
      rfl
  | body bytes => simp only [receive, Model.decode, show Json.decode? bytes = some v from h, source]

theorem receive_of_not_json {m : Model} {i : Intake} (h : i.json? = none) :
    i.receive m = .error ⟨m.title, i.source, [⟨[], .notJson⟩]⟩ := by
  cases i with
  | value v => cases h
  | body bytes => simp only [receive, Model.decode, show Json.decode? bytes = none from h, source]

end Intake

/-! ### Rows of a status -/

/-- The row of a kind and an identifier, both given. -/
def statusRow (kind : StatusKind) (id? : Option String) : Row Sheet.status.fields :=
  .cons ⟨kind, true⟩ (.cons ⟨id?, true⟩ .nil)

theorem holds_statusRow_iff (entries : List (String × Json)) (kind : StatusKind)
    (id? : Option String) : (statusRow kind id?).Holds entries ↔
      Json.lookup? entries "kind" = some (.text kind.text) ∧
        HoldsText? (Json.lookup? entries "workspace_id") id? := by
  have hkind := Field.holds_required_iff "kind" "kind" (.member .statusKind) entries kind
  have hid := Field.holds_optionalText_iff "workspace_id" "workspace_id" entries id?
  rw [Json.standing?_self] at hkind hid
  constructor
  · rintro ⟨h₁, h₂, -⟩
    exact ⟨hkind.1 h₁, hid.1 h₂⟩
  · rintro ⟨h₁, h₂⟩
    exact ⟨hkind.2 h₁, hid.2 h₂, trivial⟩

/-- A kind and an identifier go together exactly if the rule is not broken. -/
theorem statusBreach?_eq_none_iff (kind : StatusKind) (id? : Option String) :
    statusBreach? kind id? = none ↔ (id?.isSome = true ↔ kind = .workspaceFound) := by
  cases kind <;> cases id? <;> simp [statusBreach?]

/-- An entry has a kind and an identifier or none. -/
def Entry.HasParts (e : Entry .status) (kind : StatusKind) (id? : Option String) : Prop :=
  e.row.full = (statusRow kind id?).full

theorem exists_row_of_full {row : Row Sheet.status.fields} {kind : StatusKind} {id? : Option String}
    (h : row.full = (statusRow kind id?).full) :
    ∃ g g' : Bool, row = .cons ⟨kind, g⟩ (.cons ⟨id?, g'⟩ .nil) := by
  rcases row with _ | ⟨⟨k, g⟩, _ | ⟨⟨i, g'⟩, ⟨⟩⟩⟩
  cases h
  exact ⟨g, g', rfl⟩

/-- The rule does not depend on which fields were given. -/
theorem rule_of_full {row : Row Sheet.status.fields} {kind : StatusKind} {id? : Option String}
    (h : row.full = (statusRow kind id?).full) :
    Sheet.status.rule row = statusBreach? kind id? := by
  obtain ⟨g, g', rfl⟩ := exists_row_of_full h
  rfl

namespace Entry.HasParts

variable {e : Entry .status} {kind : StatusKind} {id? : Option String}

/-- The parts of an entry go together. -/
theorem goTogether (h : e.HasParts kind id?) : id?.isSome = true ↔ kind = .workspaceFound := by
  rw [← statusBreach?_eq_none_iff, ← rule_of_full h]
  exact e.property

/-- The status of an entry has its parts. -/
theorem ofEntry_eq (h : e.HasParts kind id?) :
    (Status.ofEntry e).kind = kind ∧ (Status.ofEntry e).id? = id? := by
  obtain ⟨row, hrule⟩ := e
  obtain ⟨g, g', rfl⟩ := exists_row_of_full h
  have htogether := h.goTogether
  cases kind with
  | workspaceFound =>
      obtain ⟨id, rfl⟩ := Option.isSome_iff_exists.1 (htogether.2 rfl)
      exact ⟨rfl, rfl⟩
  | daemonUnavailable =>
      cases id? with
      | none => exact ⟨rfl, rfl⟩
      | some id => cases htogether.1 rfl
  | noWorkspace =>
      cases id? with
      | none => exact ⟨rfl, rfl⟩
      | some id => cases htogether.1 rfl

/-- The fields of an entry hold its parts. -/
theorem get_eq (h : e.HasParts kind id?) :
    (Draft.ofValue (.entry .status) e).get "kind" = .ok (.text kind.text) ∧
      (Draft.ofValue (.entry .status) e).get "workspace_id" =
        .ok (id?.elim .null .text) := by
  obtain ⟨row, hrule⟩ := e
  obtain ⟨g, g', rfl⟩ := exists_row_of_full h
  refine ⟨rfl, ?_⟩
  cases id? <;> rfl

end Entry.HasParts

/-! ### Issues of fields -/

theorem Kind.fault_ne_broken (k : Kind) (breach : Breach) : k.fault ≠ .broken breach := by
  rcases k with (c | c) <;> cases c <;> exact Fault.noConfusion

/-- What is wrong with a field is never that a rule over several fields is broken. -/
theorem Field.fault_ne_broken {f : Field} {entries : List (String × Json)} {issue : Issue}
    (h : issue ∈ f.issue? entries) (breach : Breach) : issue.fault ≠ .broken breach := by
  unfold Field.issue? at h
  split at h
  · split at h
    · cases h
    · cases h
      exact f.kind.fault_ne_broken breach
  · split at h
    · cases h
    · cases h
      exact Fault.noConfusion

theorem Sheet.fault_ne_broken {s : Sheet} {v : Json} {issue : Issue} (h : issue ∈ s.issues v)
    (breach : Breach) : issue.fault ≠ .broken breach := by
  cases v with
  | object entries =>
      simp only [issues, List.mem_flatMap, Option.mem_toList] at h
      obtain ⟨f, -, hissue⟩ := h
      exact Field.fault_ne_broken hissue breach
  | _ =>
      rw [List.mem_singleton.1 h]
      exact Fault.noConfusion

theorem Cell.ne_nil_of_read_eq_error {f : Field} {entries : List (String × Json)}
    {issues : List Issue} (h : Cell.read f entries = .error issues) : issues ≠ [] := by
  unfold Cell.read at h
  split at h
  · split at h
    · cases h
    · cases h
      exact List.cons_ne_nil _ _
  · split at h
    · cases h
    · cases h
      exact List.cons_ne_nil _ _

/-- An object that is refused has an issue. -/
theorem Row.ne_nil_of_read_eq_error {fs : List Field} {entries : List (String × Json)}
    {issues : List Issue} (h : Row.read fs entries = .error issues) : issues ≠ [] := by
  induction fs generalizing issues with
  | nil => cases h
  | cons f fs ih =>
      rw [read] at h
      cases hcell : Cell.read f entries with
      | error first =>
          have hne := Cell.ne_nil_of_read_eq_error hcell
          rw [hcell] at h
          cases hrest : Row.read fs entries with
          | error more =>
              rw [hrest] at h
              cases h
              exact List.append_ne_nil_of_left_ne_nil hne more
          | ok rest =>
              rw [hrest] at h
              cases h
              exact hne
      | ok cell =>
          rw [hcell] at h
          cases hrest : Row.read fs entries with
          | error more =>
              rw [hrest] at h
              cases h
              exact ih hrest
          | ok rest =>
              rw [hrest] at h
              cases h

/-! ### Building a status -/

namespace Entry

variable {s : Sheet} {entries : List (String × Json)} {row : Row s.fields}

theorem ofEntries_of_issues {issues : List Issue} (h : Row.read s.fields entries = .error issues) :
    ofEntries s entries = .error issues := by
  rw [ofEntries, h]

theorem ofEntries_of_rule (h : Row.read s.fields entries = .ok row) (hrule : s.rule row = none) :
    ofEntries s entries = .ok ⟨row, hrule⟩ :=
  (Entry.read_eq_ok_iff (.object entries) ⟨row, hrule⟩).2 ⟨entries, rfl, h⟩

/-- A row that breaks the rule has that one issue. -/
theorem ofEntries_of_breach (h : Row.read s.fields entries = .ok row) {breach : Breach}
    (hrule : s.rule row = some breach) : ofEntries s entries = .error [⟨[], .broken breach⟩] := by
  simp only [ofEntries, h]
  split
  · next hnone => rw [hrule] at hnone; cases hnone
  · next hsome => rw [hrule, Option.some.injEq] at hsome; rw [hsome]

end Entry

namespace Intake

variable {i : Intake} {kind : StatusKind} {id? : Option String}

theorem TellsStatus.exists_row (h : i.TellsStatus kind id?) : ∃ entries row,
    i.json? = some (.object entries) ∧ Row.read Sheet.status.fields entries = .ok row ∧
      row.full = (statusRow kind id?).full := by
  obtain ⟨entries, hjson, hparts⟩ := h
  obtain ⟨row, hread, hfull⟩ :=
    (Row.exists_read_iff entries (statusRow kind id?)).2 ((holds_statusRow_iff _ _ _).2 hparts)
  exact ⟨entries, row, hjson, hread, hfull⟩

/-- A status is built from a kind and an identifier that go together. -/
theorem receive_of_goTogether (h : i.TellsStatus kind id?)
    (htogether : id?.isSome = true ↔ kind = .workspaceFound) :
    ∃ e, i.receive (.entry .status) = .ok e ∧ e.HasParts kind id? := by
  obtain ⟨entries, row, hjson, hread, hfull⟩ := h.exists_row
  have hrule : Sheet.status.rule row = none :=
    (rule_of_full hfull).trans ((statusBreach?_eq_none_iff kind id?).2 htogether)
  refine ⟨⟨row, hrule⟩, ?_, hfull⟩
  rw [receive_of_json hjson, Model.read_entry, Entry.read, Entry.ofEntries_of_rule hread hrule]
  rfl

/-- A kind and an identifier that do not go together are one issue of the whole object. -/
theorem receive_of_breach (h : i.TellsStatus kind id?) {breach : Breach}
    (hbreach : statusBreach? kind id? = some breach) :
    i.receive (.entry .status) =
      .error ⟨Sheet.status.title, i.source, [⟨[], .broken breach⟩]⟩ := by
  obtain ⟨entries, row, hjson, hread, hfull⟩ := h.exists_row
  have hrule : Sheet.status.rule row = some breach := (rule_of_full hfull).trans hbreach
  rw [receive_of_json hjson, Model.read_entry, Entry.read, Entry.ofEntries_of_breach hread hrule]
  rfl

/-- What gives no kind or a wrong one, or something else than an identifier, has the issues of its
fields and no others. -/
theorem receive_of_not_tells (h : ∀ kind id?, ¬i.TellsStatus kind id?) :
    i.receive (.entry .status) = .error ⟨Sheet.status.title, i.source, i.issues .status⟩ ∧
      i.issues .status ≠ [] := by
  cases hjson : i.json? with
  | none =>
      rw [receive_of_not_json hjson, issues, hjson]
      exact ⟨rfl, List.cons_ne_nil _ _⟩
  | some v =>
      rw [receive_of_json hjson, Model.read_entry, issues, hjson]
      cases v with
      | object entries =>
          have hissues := Row.issues_read Sheet.status.fields entries
          cases hread : Row.read Sheet.status.fields entries with
          | error found =>
              rw [hread, Checked.issues_error] at hissues
              rw [Entry.read, Entry.ofEntries_of_issues hread]
              simp only [Sheet.issues, ← hissues]
              exact ⟨rfl, Row.ne_nil_of_read_eq_error hread⟩
          | ok row =>
              -- a row that is read gives a kind, and an identifier or none
              rcases hrow : row with _ | ⟨⟨kind, g⟩, _ | ⟨⟨id?, g'⟩, ⟨⟩⟩⟩
              have hholds := (Row.exists_read_iff entries (statusRow kind id?)).1
                ⟨row, hread, by rw [hrow]; rfl⟩
              exact absurd ⟨entries, hjson, (holds_statusRow_iff _ _ _).1 hholds⟩ (h kind id?)
      | _ => exact ⟨rfl, List.cons_ne_nil _ _⟩

theorem fault_ne_broken {s : Sheet} {issue : Issue} (h : issue ∈ i.issues s) (breach : Breach) :
    issue.fault ≠ .broken breach := by
  unfold issues at h
  split at h
  · exact Sheet.fault_ne_broken h breach
  · rw [List.mem_singleton.1 h]
    exact Fault.noConfusion

/-- What is built from a kind and an identifier has them. -/
theorem TellsStatus.hasParts (h : i.TellsStatus kind id?) {e : Entry .status}
    (he : i.receive (.entry .status) = .ok e) : e.HasParts kind id? := by
  cases hbreach : statusBreach? kind id? with
  | some breach =>
      rw [receive_of_breach h hbreach] at he
      cases he
  | none =>
      obtain ⟨e', he', hparts⟩ :=
        receive_of_goTogether h ((statusBreach?_eq_none_iff kind id?).1 hbreach)
      cases he.symm.trans he'
      exact hparts

end Intake

/-! ### The ways to come by a status -/

namespace Status

/-- A status as an object: its kind is given, and its identifier if it has one. -/
def toEntry (s : Status) : Entry .status :=
  ⟨.cons ⟨s.kind, true⟩ (.cons ⟨s.id?, s.id?.isSome⟩ .nil), s.breach?_eq_none⟩

/-- The fields that a status is built from. -/
def keywords (s : Status) : Json :=
  .object (("kind", .text s.kind.text) :: s.id?.toList.map fun id => ("workspace_id", .text id))

theorem receive_keywords (s : Status) :
    (Intake.value s.keywords).receive (.entry .status) = .ok s.toEntry := by
  cases s <;> rfl

/-- An object was built as a status with a kind, and with an identifier or none: it was read from a
value in memory or from a body, or made for one of the three outcomes, or a project was resolved to
it, or a check gave it back or handed it over. -/
inductive Built : StatusKind → Option String → Entry .status → Prop
  | received {i : Intake} {kind : StatusKind} {id? : Option String} {e : Entry .status} :
      i.TellsStatus kind id? → i.receive (.entry .status) = .ok e → Built kind id? e
  | made (s : Status) : Built s.kind s.id? s.toEntry
  | resolved {c : Client} {path : Option String} {reactions : List Reaction} {s : Status} :
      (c.run (Call.resolve path) reactions).result = .ok s → Built s.kind s.id? s.toEntry
  | checked {c : Client} {path : Option String} {receiver? : Option Receiver}
      {reactions : List Reaction} {s : Status} :
      (c.check path receiver? reactions).result = .ok s → Built s.kind s.id? s.toEntry
  | delivered {c : Client} {path : Option String} {receiver? : Option Receiver}
      {reactions : List Reaction} {s : Status} :
      s ∈ (c.check path receiver? reactions).delivered → Built s.kind s.id? s.toEntry

theorem Built.hasParts {kind : StatusKind} {id? : Option String} {e : Entry .status}
    (h : Built kind id? e) : e.HasParts kind id? := by
  cases h with
  | received htells he => exact htells.hasParts he
  | made s => rfl
  | resolved _ => rfl
  | checked _ => rfl
  | delivered _ => rfl

end Status

/-! ### What is done with an object -/

namespace Draft

/-- What can be done with an object: a field is set or looked at, and the object is written,
compared with another, looked for in a table, or shown through templates. -/
inductive Use where
  | set (name : String) (value : Json)
  | get (name : String)
  | dump (options : DumpOptions)
  | compare (other : Draft)
  | place
  | render (templates : StatusKind → Option String)

/-- The object after one use; a change that is refused leaves it as it was. -/
def after (d : Draft) : Use → Draft
  | .set name value =>
    match d.set name value with
    | .ok changed => changed
    | .error _ => d
  | .get _ | .dump _ | .compare _ | .place | .render _ => d

/-- The object after some uses, one after another. -/
def afterAll (d : Draft) (uses : List Use) : Draft := uses.foldl after d

variable {d : Draft}

/-- No field of a fixed object can be set. -/
theorem set_of_isFixed (h : d.model.isFixed = true) (name : String) (value : Json) :
    d.set name value = .error (.frozen d.model name) := by
  rw [set, if_pos h]

/-- One use leaves a fixed object as it is. -/
theorem after_of_isFixed (h : d.model.isFixed = true) (use : Use) : d.after use = d := by
  cases use with
  | set name value => rw [after, set_of_isFixed h]
  | _ => rfl

/-- Any number of uses leaves a fixed object as it is. -/
theorem afterAll_of_isFixed (h : d.model.isFixed = true) (uses : List Use) :
    d.afterAll uses = d := by
  induction uses with
  | nil => rfl
  | cons use uses ih =>
      rw [afterAll, List.foldl_cons, after_of_isFixed h]
      exact ih

end Draft

/-! ### The rule lasts -/

/-- **A status keeps its rule.**  It is built from a kind and an identifier exactly if they go
together; if they do not, that is the one issue, and if a field is wrong, there are only issues of
fields.  However a status was come by, it has an identifier exactly if a workspace was found, and it
holds what it was built with after all that is done with it. -/
theorem Status.rule_lasts :
    (∀ (i : Intake) (kind : StatusKind) (id? : Option String), i.TellsStatus kind id? →
      ((id?.isSome = true ↔ kind = .workspaceFound) →
        ∃ e, i.receive (.entry .status) = .ok e ∧ Status.Built kind id? e) ∧
      (¬(id?.isSome = true ↔ kind = .workspaceFound) →
        ∃ breach, statusBreach? kind id? = some breach ∧ i.receive (.entry .status) =
          .error ⟨Sheet.status.title, i.source, [⟨[], .broken breach⟩]⟩)) ∧
    (∀ i : Intake, (∀ kind id?, ¬i.TellsStatus kind id?) →
      i.receive (.entry .status) = .error ⟨Sheet.status.title, i.source, i.issues .status⟩ ∧
        i.issues .status ≠ [] ∧
        ∀ issue ∈ i.issues .status, ∀ breach, issue.fault ≠ .broken breach) ∧
    (∀ s : Status, (Intake.value s.keywords).receive (.entry .status) = .ok s.toEntry) ∧
    ∀ (kind : StatusKind) (id? : Option String) (e : Entry .status), Status.Built kind id? e →
      (id?.isSome = true ↔ kind = .workspaceFound) ∧
      (Status.ofEntry e).kind = kind ∧ (Status.ofEntry e).id? = id? ∧
      ∀ uses : List Draft.Use,
        let d := (Draft.ofValue (.entry .status) e).afterAll uses
        d = Draft.ofValue (.entry .status) e ∧
          d.get "kind" = .ok (.text kind.text) ∧
          d.get "workspace_id" = .ok (id?.elim .null .text) ∧
          ∀ name value, d.set name value = .error (.frozen (.entry .status) name) := by
  refine ⟨fun i kind id? htells => ⟨fun htogether => ?_, fun hapart => ?_⟩, fun i hnone => ?_,
    Status.receive_keywords, fun kind id? e hbuilt => ?_⟩
  · obtain ⟨e, he, -⟩ := Intake.receive_of_goTogether htells htogether
    exact ⟨e, he, .received htells he⟩
  · rw [← statusBreach?_eq_none_iff, Option.eq_none_iff_forall_ne_some, not_forall_not] at hapart
    obtain ⟨breach, hbreach⟩ := hapart
    exact ⟨breach, hbreach, Intake.receive_of_breach htells hbreach⟩
  · obtain ⟨hreceive, hne⟩ := Intake.receive_of_not_tells hnone
    exact ⟨hreceive, hne, fun issue hissue => Intake.fault_ne_broken hissue⟩
  · have hparts := hbuilt.hasParts
    obtain ⟨hkind, hid⟩ := hparts.get_eq
    refine ⟨hparts.goTogether, hparts.ofEntry_eq.1, hparts.ofEntry_eq.2, fun uses => ?_⟩
    have hfixed : (Draft.ofValue (.entry .status) e).model.isFixed = true := rfl
    rw [Draft.afterAll_of_isFixed hfixed uses]
    exact ⟨rfl, hkind, hid, Draft.set_of_isFixed hfixed⟩

/-- The empty text is an identifier like any other: with it a workspace was found, whatever is done
with the status, and a status of another kind is refused for it. -/
theorem Status.rule_lasts_empty :
    (∃ e : Entry .status,
      (Intake.value (.object [("workspace_id", .text ""), ("kind", .text "workspace_found")])).receive
        (.entry .status) = .ok e ∧
      ((Draft.ofValue (.entry .status) e).afterAll [.set "workspace_id" .null, .render fun _ => none,
        .set "kind" (.text "no_workspace")]).get "workspace_id" = .ok (.text "")) ∧
    (Intake.value (.object [("workspace_id", .text ""), ("kind", .text "no_workspace")])).receive
      (.entry .status) = .error ⟨"WorkspaceStatus", .value,
        [⟨[], .broken (.identifierUnwanted .noWorkspace)⟩]⟩ ∧
    (Intake.value (.object [("workspace_id", .bool false), ("kind", .text "nowhere")])).receive
      (.entry .status) = .error ⟨"WorkspaceStatus", .value,
        [⟨[.key "kind"], .notMember .statusKind⟩, ⟨[.key "workspace_id"], .notText⟩]⟩ := by
  obtain ⟨hparts, hfields, -, hlasts⟩ := Status.rule_lasts
  refine ⟨?_, ?_, ?_⟩
  · have htells : (Intake.value (.object [("workspace_id", .text ""),
        ("kind", .text "workspace_found")])).TellsStatus .workspaceFound (some "") :=
      ⟨_, rfl, rfl, rfl⟩
    obtain ⟨e, he, hbuilt⟩ := (hparts _ _ _ htells).1 (by decide)
    exact ⟨e, he, ((hlasts _ _ e hbuilt).2.2.2 _).2.2.1⟩
  · have htells : (Intake.value (.object [("workspace_id", .text ""),
        ("kind", .text "no_workspace")])).TellsStatus .noWorkspace (some "") :=
      ⟨_, rfl, rfl, rfl⟩
    obtain ⟨breach, hbreach, hreceive⟩ := (hparts _ _ _ htells).2 (by decide)
    cases hbreach
    exact hreceive
  · refine (hfields _ ?_).1
    rintro kind (_ | id) ⟨entries, hjson, hkind, hid⟩
    · cases hjson
      rcases hid with hid | hid <;> cases hid
    · cases hjson
      cases hid

end WorkspaceWatch
