/-
**Records printed on lines.**

Workspaces and tasks are printed one after another, each with a line end behind it and with its
values separated by tabs.  The values are printed as they are, but for the escape sequences that are
lost off a terminal.  Cutting the text at the line ends and the lines at the tabs therefore gives the
values back as long as nothing is lost of them, and none of them holds a line end or a tab that would
be taken for one between them; otherwise it does not, and different lists of records may be printed
as the same text.

Main definitions:

* `WorkspaceWatch.linesOf`, `WorkspaceWatch.splitAtFirst` — the lines of a text, and a line cut at
  its first marks;
* `WorkspaceWatch.IsKept` — a value is printed on one line, and nothing is lost of it;
* `WorkspaceWatch.RecordFormat` — values to print, and a way to cut a line into them;
* `WorkspaceWatch.RecordFormat.IsPlain` — a record is printed on one line, which is cut into its
  values;
* `WorkspaceWatch.Situation.ListsWorkspaces`, `WorkspaceWatch.Situation.ListsTasks` — a run of the
  program prints these records.

Main results:

* `WorkspaceWatch.RecordFormat.length_linesOf_text` — there is a line for each record and for each
  line end in a value;
* `WorkspaceWatch.RecordFormat.read_text_iff` — records are read back exactly if all are plain;
* `WorkspaceWatch.Workspace.isPlain_iff`, `WorkspaceWatch.Task.isPlain_iff` — which records are plain;
* `WorkspaceWatch.Situation.listings_read_back` — **what a run prints is read back exactly if the
  records are plain**.
-/

import Mathlib.Data.List.TakeWhile
import WorkspaceWatch.Proofs.Listing
import WorkspaceWatch.Proofs.Reporting
import WorkspaceWatch.Proofs.Segments

set_option autoImplicit false

namespace WorkspaceWatch

/-! ### Cutting a text -/

/-- The lines of a text, each with a line end behind it. -/
def linesOf (text : List Char) : List (List Char) :=
  (splitAtMark '\n' text).dropLast

/-- The pieces of a text that is cut at its first marks, no more than a number of them. -/
def splitAtFirst (mark : Char) : Nat → List Char → List (List Char)
  | 0, cs => [cs]
  | n + 1, cs =>
    match cs.dropWhile (· != mark) with
    | [] => [cs]
    | _ :: rest => cs.takeWhile (· != mark) :: splitAtFirst mark n rest

theorem splitAtFirst_append_mark {mark : Char} {piece : List Char} (h : mark ∉ piece) (n : Nat)
    (cs : List Char) : splitAtFirst mark (n + 1) (piece ++ mark :: cs) =
      piece :: splitAtFirst mark n cs := by
  obtain ⟨htake, hdrop⟩ := takeWhile_append_cons h cs
  simp only [splitAtFirst, hdrop, htake]

/-- What is in a piece is in the text. -/
theorem mem_of_mem_splitAtFirst {mark : Char} {n : Nat} {cs piece : List Char}
    (h : piece ∈ splitAtFirst mark n cs) {x : Char} (hx : x ∈ piece) : x ∈ cs := by
  induction n generalizing cs with
  | zero =>
      rw [splitAtFirst, List.mem_singleton] at h
      rwa [← h]
  | succ n ih =>
      rw [splitAtFirst] at h
      split at h
      · rw [List.mem_singleton] at h
        rwa [← h]
      · next first rest hdrop =>
        rcases List.mem_cons.1 h with rfl | h
        · exact (List.takeWhile_prefix _).mem hx
        · have hsuffix : rest <:+ cs :=
            (List.suffix_cons first rest).trans (hdrop ▸ List.dropWhile_suffix _)
          exact hsuffix.mem (ih h)

/-- The first piece does not have the mark in it. -/
theorem notMem_of_splitAtFirst_eq_cons {mark : Char} {n : Nat} {cs piece : List Char}
    {pieces : List (List Char)} (h : splitAtFirst mark (n + 1) cs = piece :: pieces) :
    mark ∉ piece := by
  rw [splitAtFirst] at h
  split at h
  · next hdrop =>
    obtain ⟨rfl, -⟩ := List.cons.inj h
    intro hmark
    simpa using List.dropWhile_eq_nil_iff.1 hdrop mark hmark
  · obtain ⟨rfl, -⟩ := List.cons.inj h
    intro hmark
    simpa using List.mem_takeWhile_imp hmark

/-! ### Formats -/

/-- A way to print records: their values, separated by tabs, and how a line is cut into values. -/
structure RecordFormat (α : Type) where
  /-- The values of a record. -/
  printed : α → List (List Char)
  /-- A line cut into values. -/
  cut : List Char → List (List Char)
  /-- Cutting adds nothing to a line. -/
  mem_of_mem_cut : ∀ {line piece : List Char}, piece ∈ cut line → ∀ {x : Char}, x ∈ piece → x ∈ line

namespace RecordFormat

variable {α : Type} (f : RecordFormat α)

/-- The line of a record. -/
def line (a : α) : List Char := joinWithMark '\t' (f.printed a)

/-- The text of records as it is printed, a line end behind each. -/
def text (onTerminal : Bool) (as : List α) : List Char :=
  as.flatMap fun a => shownChars onTerminal (f.line a) ++ ['\n']

/-- The values that the lines of a text are cut into. -/
def read (text : List Char) : List (List (List Char)) := (linesOf text).map f.cut

/-- A record is printed on one line, and the line is cut into its values. -/
def IsPlain (onTerminal : Bool) (a : α) : Prop :=
  '\n' ∉ shownChars onTerminal (f.line a) ∧
    f.cut (shownChars onTerminal (f.line a)) = f.printed a

end RecordFormat

theorem count_joinWithMark {mark other : Char} (h : other ≠ mark) (pieces : List (List Char)) :
    (joinWithMark mark pieces).count other = pieces.flatten.count other := by
  fun_induction joinWithMark mark pieces with
  | case1 => rfl
  | case2 piece => rw [List.flatten_singleton]
  | case3 piece next rest ih =>
      rw [List.count_append, List.count_cons_of_ne h.symm, ih, ← List.count_append]
      rfl

namespace RecordFormat

variable {α : Type} (f : RecordFormat α) (onTerminal : Bool)

/-- A line is printed value by value. -/
theorem shownChars_line (a : α) : shownChars onTerminal (f.line a) =
    joinWithMark '\t' ((f.printed a).map (shownChars onTerminal)) :=
  shownChars_joinWithMark (by decide) onTerminal _

theorem count_shownChars_line (a : α) :
    (shownChars onTerminal (f.line a)).count '\n' = (f.printed a).flatten.count '\n' := by
  rw [count_shownChars (by decide), line, count_joinWithMark (by decide)]

/-- **The lines of a text are those of its records**, where a record with line ends in it has more
than one. -/
theorem linesOf_text (as : List α) : linesOf (f.text onTerminal as) =
    as.flatMap fun a => splitAtMark '\n' (shownChars onTerminal (f.line a)) := by
  induction as with
  | nil => rfl
  | cons a as ih =>
      have htext : f.text onTerminal (a :: as) =
          shownChars onTerminal (f.line a) ++ '\n' :: f.text onTerminal as := by
        rw [text, List.flatMap_cons, List.append_assoc]
        rfl
      rw [linesOf, htext, splitAtMark_append,
        List.dropLast_append_of_ne_nil (splitAtMark_ne_nil '\n' (f.text onTerminal as)),
        List.flatMap_cons, ← ih]
      rfl

/-- There is a line for each record and for each line end in a value. -/
theorem length_linesOf_text (as : List α) : (linesOf (f.text onTerminal as)).length =
    as.length + ((as.flatMap f.printed).flatten).count '\n' := by
  rw [linesOf_text]
  induction as with
  | nil => rfl
  | cons a as ih =>
      rw [List.flatMap_cons, List.length_append, ih, length_splitAtMark, count_shownChars_line,
        List.length_cons, List.flatMap_cons, List.flatten_append, List.count_append]
      omega

/-- **Records are read back exactly if all are plain.** -/
theorem read_text_iff (as : List α) :
    f.read (f.text onTerminal as) = as.map f.printed ↔ ∀ a ∈ as, f.IsPlain onTerminal a := by
  have hlines_of : (∀ a ∈ as, '\n' ∉ shownChars onTerminal (f.line a)) →
      linesOf (f.text onTerminal as) = as.map fun a => shownChars onTerminal (f.line a) := by
    intro hbreak
    rw [linesOf_text, ← List.flatMap_singleton' (as.map _), List.flatMap_map]
    exact List.flatMap_congr fun a ha => splitAtMark_of_notMem '\n' _ (hbreak a ha)
  constructor
  · intro hread
    -- every value was cut from a line, and no line has a line end in it
    have hbreak : ∀ a ∈ as, '\n' ∉ shownChars onTerminal (f.line a) := by
      intro a ha
      have hmem : f.printed a ∈ f.read (f.text onTerminal as) := hread ▸ List.mem_map_of_mem ha
      obtain ⟨line, hline, hcut⟩ := List.mem_map.1 hmem
      rw [← List.count_eq_zero, count_shownChars_line, List.count_eq_zero, ← hcut]
      intro hmark
      obtain ⟨piece, hpiece, hx⟩ := List.mem_flatten.1 hmark
      rw [linesOf] at hline
      exact notMem_of_mem_splitAtMark ((List.dropLast_prefix _).mem hline) (f.mem_of_mem_cut hpiece hx)
    rw [read, hlines_of hbreak, List.map_map, List.map_inj_left] at hread
    exact fun a ha => ⟨hbreak a ha, hread a ha⟩
  · intro hplain
    rw [read, hlines_of fun a ha => (hplain a ha).1, List.map_map, List.map_inj_left]
    exact fun a ha => (hplain a ha).2

/-- Plain records are told by their text up to what is not printed. -/
theorem map_printed_eq_of_text_eq {onTerminal onTerminal' : Bool} {as bs : List α}
    (has : ∀ a ∈ as, f.IsPlain onTerminal a) (hbs : ∀ b ∈ bs, f.IsPlain onTerminal' b)
    (h : f.text onTerminal as = f.text onTerminal' bs) :
    as.map f.printed = bs.map f.printed := by
  rw [← (f.read_text_iff onTerminal as).2 has, ← (f.read_text_iff onTerminal' bs).2 hbs, h]

/-- A line has no line end in it exactly if no value has. -/
theorem notMem_line_iff (a : α) : '\n' ∉ shownChars onTerminal (f.line a) ↔
    ∀ value ∈ f.printed a, '\n' ∉ value := by
  rw [← List.count_eq_zero, count_shownChars_line, List.count_eq_zero, List.mem_flatten]
  simp only [not_exists, not_and]

end RecordFormat

/-! ### Workspaces and tasks -/

/-- What is printed of a workspace: a name or a directory that is missing is empty. -/
def Workspace.printed (w : Workspace) : List (List Char) :=
  [w.id.toList, (w.name.getD "").toList, (w.directory.getD "").toList]

/-- What is printed of a task. -/
def Task.printed (t : Task) : List (List Char) :=
  [t.id.toList, t.status.text.toList, t.description.toList]

/-- The line of a workspace is cut at every tab. -/
def Workspace.format : RecordFormat Workspace where
  printed := printed
  cut := splitAtMark '\t'
  mem_of_mem_cut := mem_of_mem_splitAtMark

/-- The line of a task is cut at the first two tabs; what is behind them is its description. -/
def Task.format : RecordFormat Task where
  printed := printed
  cut := splitAtFirst '\t' 2
  mem_of_mem_cut := mem_of_mem_splitAtFirst

theorem Workspace.toList_line (w : Workspace) :
    (Command.workspaceLine w).toList = format.line w := by
  simp [Command.workspaceLine, RecordFormat.line, format, printed, joinWithMark]

theorem Task.toList_line (t : Task) : (Command.taskLine t).toList = format.line t := by
  simp [Command.taskLine, RecordFormat.line, format, printed, joinWithMark]

/-- A value is printed on one line, and nothing is lost of it. -/
def IsKept (onTerminal : Bool) (value : List Char) : Prop :=
  '\n' ∉ value ∧ (onTerminal = false → ¬HasEscape value)

theorem isKept_iff (onTerminal : Bool) (value : List Char) :
    IsKept onTerminal value ↔ '\n' ∉ value ∧ shownChars onTerminal value = value := by
  rw [IsKept, shownChars_eq_self_iff]

theorem map_shownChars_eq_self_iff (onTerminal : Bool) (values : List (List Char)) :
    values.map (shownChars onTerminal) = values ↔
      ∀ value ∈ values, shownChars onTerminal value = value := by
  conv_lhs => rhs; rw [← List.map_id values]
  rw [List.map_inj_left]
  simp only [id_eq]

/-- A workspace is plain exactly if its values are kept and none has a tab in it. -/
theorem Workspace.isPlain_iff (onTerminal : Bool) (w : Workspace) :
    format.IsPlain onTerminal w ↔ ∀ value ∈ w.printed, IsKept onTerminal value ∧ '\t' ∉ value := by
  have hsplit : (∀ value ∈ w.printed, '\t' ∉ value) →
      format.cut (shownChars onTerminal (format.line w)) =
        w.printed.map (shownChars onTerminal) := by
    intro htab
    rw [RecordFormat.shownChars_line]
    refine splitAtMark_joinWithMark '\t' _ (List.cons_ne_nil _ _) ?_
    rintro piece hpiece
    obtain ⟨value, hvalue, rfl⟩ := List.mem_map.1 hpiece
    rw [mem_shownChars_iff (by decide)]
    exact htab value hvalue
  have hcut : format.cut (shownChars onTerminal (format.line w)) = w.printed ↔
      ∀ value ∈ w.printed, '\t' ∉ value ∧ shownChars onTerminal value = value := by
    constructor
    · intro hcut
      have htab : ∀ value ∈ w.printed, '\t' ∉ value := by
        intro value hvalue
        have hmem : value ∈ format.cut (shownChars onTerminal (format.line w)) := hcut ▸ hvalue
        exact notMem_of_mem_splitAtMark hmem
      rw [hsplit htab, map_shownChars_eq_self_iff] at hcut
      exact fun value hvalue => ⟨htab value hvalue, hcut value hvalue⟩
    · intro h
      rw [hsplit fun value hvalue => (h value hvalue).1, map_shownChars_eq_self_iff]
      exact fun value hvalue => (h value hvalue).2
  rw [RecordFormat.IsPlain, RecordFormat.notMem_line_iff]
  refine (and_congr_right fun _ => hcut).trans ?_
  simp only [isKept_iff]
  exact ⟨fun h value hvalue => ⟨⟨h.1 value hvalue, (h.2 value hvalue).2⟩, (h.2 value hvalue).1⟩,
    fun h => ⟨fun value hvalue => (h value hvalue).1.1,
      fun value hvalue => ⟨(h value hvalue).2, (h value hvalue).1.2⟩⟩⟩

theorem TaskStatus.notMem_tab_text (status : TaskStatus) : '\t' ∉ status.text.toList := by
  cases status <;> decide

/-- A task is plain exactly if its values are kept, and its identifier has no tab in it. -/
theorem Task.isPlain_iff (onTerminal : Bool) (t : Task) : format.IsPlain onTerminal t ↔
    (∀ value ∈ t.printed, IsKept onTerminal value) ∧ '\t' ∉ t.id.toList := by
  have hsplit : '\t' ∉ t.id.toList →
      format.cut (shownChars onTerminal (format.line t)) =
        t.printed.map (shownChars onTerminal) := by
    intro hid
    rw [← mem_shownChars_iff (show stopsEscape '\t' = true by decide) onTerminal] at hid
    have hstatus := t.status.notMem_tab_text
    rw [← mem_shownChars_iff (show stopsEscape '\t' = true by decide) onTerminal] at hstatus
    rw [RecordFormat.shownChars_line]
    have hrest := splitAtFirst_append_mark hstatus 0 (shownChars onTerminal t.description.toList)
    exact (splitAtFirst_append_mark hid 1 _).trans (congrArg (_ :: ·) hrest)
  have hcut : format.cut (shownChars onTerminal (format.line t)) = t.printed ↔
      '\t' ∉ t.id.toList ∧ ∀ value ∈ t.printed, shownChars onTerminal value = value := by
    constructor
    · intro hcut
      have hid := notMem_of_splitAtFirst_eq_cons hcut
      rw [hsplit hid, map_shownChars_eq_self_iff] at hcut
      exact ⟨hid, hcut⟩
    · rintro ⟨hid, hsame⟩
      rw [hsplit hid, map_shownChars_eq_self_iff]
      exact hsame
  rw [RecordFormat.IsPlain, RecordFormat.notMem_line_iff]
  refine (and_congr_right fun _ => hcut).trans ?_
  simp only [isKept_iff]
  exact ⟨fun h => ⟨fun value hvalue => ⟨h.1 value hvalue, h.2.2 value hvalue⟩, h.2.1⟩,
    fun h => ⟨fun value hvalue => (h.1 value hvalue).1, h.2,
      fun value hvalue => (h.1 value hvalue).2⟩⟩

/-! ### Runs that print records -/

theorem intercalate_empty_cons (x : String) (xs : List String) :
    "".intercalate (x :: xs) = x ++ "".intercalate xs := by
  cases xs with
  | nil => rw [String.intercalate_singleton, String.intercalate_nil, String.append_empty]
  | cons y ys => rw [String.intercalate_cons_cons, String.append_empty]

/-- The text of some lines as it is printed, each with a line end behind it. -/
theorem toList_intercalate_lines (onTerminal : Bool) (lines : List String) :
    ("".intercalate (lines.map fun line => printed onTerminal line ++ "\n")).toList =
      lines.flatMap fun line => shownChars onTerminal line.toList ++ ['\n'] := by
  induction lines with
  | nil => rfl
  | cons line lines ih =>
      rw [List.map_cons, intercalate_empty_cons, String.toList_append, String.toList_append, ih,
        toList_printed]
      rfl

namespace Situation

variable {s : Situation} {words : List String}

/-- A run of the program lists workspaces: those that the daemon lists. -/
inductive ListsWorkspaces (s : Situation) (words : List String) (ws : List Workspace) : Prop
  | intro {c : Client} {d : Diagnostics} {shown : String} {reaction : Reaction}
      {rest : List Reaction} :
      s.Calls words c d shown .workspaces → s.reactions = reaction :: rest →
      c.Lists reaction ws → ListsWorkspaces s words ws

/-- A run of the program lists tasks: those that the daemon lists for the first workspace bound to
the project's directory. -/
inductive ListsTasks (s : Situation) (words : List String) (ts : List Task) : Prop
  | intro {c : Client} {d : Diagnostics} {shown : String} {path? : Option String}
      {states : List String} {first second : Reaction} {rest : List Reaction} {ws : List Workspace}
      {id : String} :
      s.Calls words c d shown (.tasks path? states) → s.reactions = first :: second :: rest →
      c.Lists first ws → IsFirstBound ws (projectPath s.directory path?) id →
      (Operation.listTasks id states).Ends c second (.answered (.tasks ts)) → ListsTasks s words ts

theorem ListsWorkspaces.out_eq {ws : List Workspace} (h : s.ListsWorkspaces words ws) :
    (s.run words).out.toList = Workspace.format.text s.onTerminal ws := by
  obtain ⟨hcalls, hreactions, hws⟩ := h
  have hshows := CommandRun.shows_workspaces_of_lists
    ⟨s, words, _, _, _, hcalls, rfl, hreactions⟩ hws
  refine (congrArg String.toList hshows.out).trans ?_
  rw [toList_intercalate_lines, List.flatMap_map, RecordFormat.text]
  simp only [Workspace.toList_line]

theorem ListsTasks.out_eq {ts : List Task} (h : s.ListsTasks words ts) :
    (s.run words).out.toList = Task.format.text s.onTerminal ts := by
  obtain ⟨hcalls, hreactions, hws, hid, hends⟩ := h
  have hshows := Calls.shows_course (t := .list _) hcalls hreactions (.answered hws hid hends)
  rw [hshows.out, toList_intercalate_lines, TaskCommand.lines, List.flatMap_map, RecordFormat.text]
  simp only [Task.toList_line]

/-- **What a run prints is read back exactly if the records are plain.**  There is a line for each
record and for each line end in a value.  The lines cut at their tabs are the workspaces, in order,
exactly if no value has a line end or a tab in it, nor, off a terminal, an escape sequence; the lines
cut at their first two tabs are the tasks exactly if no value has a line end in it, nor, off a
terminal, an escape sequence, and no identifier a tab.  Then no other values are printed as the same
text. -/
theorem listings_read_back (s : Situation) (words : List String) :
    (∀ ws, s.ListsWorkspaces words ws →
      (linesOf (s.run words).out.toList).length =
        ws.length + ((ws.flatMap Workspace.printed).flatten).count '\n' ∧
      ((linesOf (s.run words).out.toList).map (splitAtMark '\t') = ws.map Workspace.printed ↔
        ∀ w ∈ ws, ∀ value ∈ w.printed, IsKept s.onTerminal value ∧ '\t' ∉ value) ∧
      ∀ (s' : Situation) words' ws', s'.ListsWorkspaces words' ws' →
        (∀ w ∈ ws, ∀ value ∈ w.printed, IsKept s.onTerminal value ∧ '\t' ∉ value) →
        (∀ w ∈ ws', ∀ value ∈ w.printed, IsKept s'.onTerminal value ∧ '\t' ∉ value) →
        (s'.run words').out = (s.run words).out →
        ws'.map Workspace.printed = ws.map Workspace.printed) ∧
    ∀ ts, s.ListsTasks words ts →
      (linesOf (s.run words).out.toList).length =
        ts.length + ((ts.flatMap Task.printed).flatten).count '\n' ∧
      ((linesOf (s.run words).out.toList).map (splitAtFirst '\t' 2) = ts.map Task.printed ↔
        ∀ t ∈ ts, (∀ value ∈ t.printed, IsKept s.onTerminal value) ∧ '\t' ∉ t.id.toList) ∧
      ∀ (s' : Situation) words' ts', s'.ListsTasks words' ts' →
        (∀ t ∈ ts, (∀ value ∈ t.printed, IsKept s.onTerminal value) ∧ '\t' ∉ t.id.toList) →
        (∀ t ∈ ts', (∀ value ∈ t.printed, IsKept s'.onTerminal value) ∧ '\t' ∉ t.id.toList) →
        (s'.run words').out = (s.run words).out → ts'.map Task.printed = ts.map Task.printed := by
  refine ⟨fun ws hws => ⟨?_, ?_, ?_⟩, fun ts hts => ⟨?_, ?_, ?_⟩⟩
  · rw [hws.out_eq]
    exact Workspace.format.length_linesOf_text s.onTerminal ws
  · rw [hws.out_eq]
    simp only [← Workspace.isPlain_iff]
    exact Workspace.format.read_text_iff s.onTerminal ws
  · intro s' words' ws' hws' hplain hplain' hout
    simp only [← Workspace.isPlain_iff] at hplain hplain'
    refine Workspace.format.map_printed_eq_of_text_eq hplain' hplain ?_
    rw [← hws'.out_eq, ← hws.out_eq, hout]
  · rw [hts.out_eq]
    exact Task.format.length_linesOf_text s.onTerminal ts
  · rw [hts.out_eq]
    simp only [← Task.isPlain_iff]
    exact Task.format.read_text_iff s.onTerminal ts
  · intro s' words' ts' hts' hplain hplain' hout
    simp only [← Task.isPlain_iff] at hplain hplain'
    refine Task.format.map_printed_eq_of_text_eq hplain' hplain ?_
    rw [← hts'.out_eq, ← hts.out_eq, hout]

/-- A list of tasks to be done, by their identifiers and descriptions. -/
def tasksBody (ts : List (String × String)) : Json :=
  .object [("tasks", .array (ts.map fun (id, description) => .object [("id", .text id),
    ("workspaceId", .text "w1"), ("status", .text "to_do"), ("description", .text description)]))]

/-- The daemon lists one workspace, and then tasks of it. -/
def withTasks (ts : List (String × String)) : Situation :=
  listing "w1" (.ofJson 200 (tasksBody ts))

/-- A task to be done of the workspace that is listed. -/
def taskToDo (id description : String) : Task :=
  ⟨id, "w1", .toDo, description, none, none, none, none⟩

theorem isLegible_tasksBody (ts : List (String × String)) : (tasksBody ts).IsLegible := by
  refine ⟨?_, trivial⟩
  induction ts with
  | nil => trivial
  | cons t ts ih => exact ⟨⟨trivial, trivial, trivial, trivial, trivial⟩, ih⟩

theorem withTasks_lists {ts : List (String × String)} {tasks : List Task}
    (hlevel : (tasksBody ts).level ≤ Json.maxDepth)
    (htasks : Task.readAll (tasksBody ts) = .ok tasks) :
    (withTasks ts).ListsTasks ["tasks"] tasks := by
  have hcalls : (withTasks ts).Calls ["tasks"] {} .usual "" (.tasks none []) :=
    @Calls.intro _ _ ⟨[], ["tasks"]⟩ ⟨[], []⟩ "tasks" [] .tasks {} "" _
      rfl rfl rfl rfl rfl Diagnostics.setup_usual rfl rfl rfl
  obtain ⟨es, hes, rfl⟩ := (map_eq_ok_iff _ _ _).1 htasks
  have hread := Json.decode?_compact (isLegible_tasksBody ts) hlevel
  rw [← Response.body_ofJson 200] at hread
  have hdecode := (Model.decode_eq_ok_iff .taskList _ _).2 ⟨_, hread, hes⟩
  refine .intro hcalls rfl (lists_oneWorkspace "w1") (isFirstBound_oneWorkspace "w1") ?_
  refine .answered ⟨⟨_, rfl, Response.decoded_ofJson _ _⟩, _, rfl, ?_⟩
    ⟨Nat.le_refl 200, Nat.le_add_right 200 99⟩ ?_
  · rintro location ⟨⟩
  · rw [Operation.value, hdecode]
    rfl

/-- Values without the character that begins escape sequences are kept. -/
theorem isKept_of_notMem {value : List Char} (hline : '\n' ∉ value) (hescape : escapeChar ∉ value)
    (onTerminal : Bool) : IsKept onTerminal value := by
  refine ⟨hline, ?_⟩
  rintro - ⟨before, after, rfl, -⟩
  exact hescape (by simp)

/-- A description may have a tab in it, and an identifier may be empty. -/
theorem listings_read_back_tab :
    (linesOf ((withTasks [("t1", "a\tb"), ("", "")]).run ["tasks"]).out.toList).map
        (splitAtFirst '\t' 2) =
      [["t1".toList, "to_do".toList, "a\tb".toList], [[], "to_do".toList, []]] ∧
    (linesOf ((listing "w1" ⟨204, [], .empty⟩).run ["workspaces"]).out.toList).map
        (splitAtMark '\t') =
      [["w1".toList, [], "/p".toList]] := by
  have htasks : (withTasks [("t1", "a\tb"), ("", "")]).ListsTasks ["tasks"]
      [taskToDo "t1" "a\tb", taskToDo "" ""] := withTasks_lists (by decide) rfl
  have hcalls : (listing "w1" ⟨204, [], .empty⟩).Calls ["workspaces"] {} .usual "" .workspaces :=
    @Calls.intro _ _ ⟨[], ["workspaces"]⟩ ⟨[], []⟩ "workspaces" [] .workspaces {} "" _
      rfl rfl rfl rfl rfl Diagnostics.setup_usual rfl rfl rfl
  have hworkspaces : (listing "w1" ⟨204, [], .empty⟩).ListsWorkspaces ["workspaces"] _ :=
    .intro hcalls rfl (lists_oneWorkspace "w1")
  have htaskValues : ∀ t ∈ [taskToDo "t1" "a\tb", taskToDo "" ""],
      (∀ value ∈ t.printed, '\n' ∉ value ∧ escapeChar ∉ value) ∧ '\t' ∉ t.id.toList := by
    decide
  have hvalues : ∀ w ∈ [(⟨"w1", none, some "/p", none, none⟩ : Workspace)],
      ∀ value ∈ w.printed, ('\n' ∉ value ∧ escapeChar ∉ value) ∧ '\t' ∉ value := by
    decide
  refine ⟨((listings_read_back _ _).2 _ htasks).2.1.2 fun t ht => ?_,
    ((listings_read_back _ _).1 _ hworkspaces).2.1.2 fun w hw value hvalue => ?_⟩
  · obtain ⟨hkept, htab⟩ := htaskValues t ht
    exact ⟨fun value hvalue =>
      isKept_of_notMem (hkept value hvalue).1 (hkept value hvalue).2 _, htab⟩
  · obtain ⟨⟨hline, hescape⟩, htab⟩ := hvalues w hw value hvalue
    exact ⟨isKept_of_notMem hline hescape _, htab⟩

/-- **A description with a line end in it is printed like a task of its own.** -/
theorem listings_alike :
    (withTasks [("t1", "a\nt2\tto_do\tb")]).ListsTasks ["tasks"]
        [taskToDo "t1" "a\nt2\tto_do\tb"] ∧
      (withTasks [("t1", "a"), ("t2", "b")]).ListsTasks ["tasks"]
        [taskToDo "t1" "a", taskToDo "t2" "b"] ∧
      ((withTasks [("t1", "a\nt2\tto_do\tb")]).run ["tasks"]).out =
        ((withTasks [("t1", "a"), ("t2", "b")]).run ["tasks"]).out := by
  have hone : (withTasks [("t1", "a\nt2\tto_do\tb")]).ListsTasks ["tasks"]
      [taskToDo "t1" "a\nt2\tto_do\tb"] :=
    withTasks_lists (by decide) rfl
  have htwo : (withTasks [("t1", "a"), ("t2", "b")]).ListsTasks ["tasks"]
      [taskToDo "t1" "a", taskToDo "t2" "b"] :=
    withTasks_lists (by decide) rfl
  refine ⟨hone, htwo, ?_⟩
  rw [← String.toList_inj, hone.out_eq, htwo.out_eq]
  decide

end Situation

end WorkspaceWatch
