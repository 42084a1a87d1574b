/-
**One directory, one key.**

A command is about a directory, and knows it by the normal form of the path that it is given, read
from the current directory.  A slash or a dot behind a path, or a way into a directory and back, make
no difference; nor does it matter whether the current directory is named by a dot, by nothing, or not
at all.  A directory that is registered without a name is called by the last name in its key, which
is missing only for a root.

Main definitions:

* `WorkspaceWatch.Path.Respells` — a path is written in another way;
* `WorkspaceWatch.Command.withPath` — a command about another path;
* `WorkspaceWatch.Request.Holds` — the body of a request is an object with a text under a key.

Main results:

* `WorkspaceWatch.Path.isNormal_absolute` — a key is in normal form;
* `WorkspaceWatch.Path.Respells.absolute_eq` — **a path that is written in another way has the same
  key**;
* `WorkspaceWatch.Path.absolute_here` — so have a dot and nothing, which mean the current directory;
* `WorkspaceWatch.Path.baseName_eq_empty_iff` — only a root has no name;
* `WorkspaceWatch.Path.spellings_share_key` — **all commands know a directory by one key**.
-/

import WorkspaceWatch.Proofs.NormalPath
import WorkspaceWatch.Proofs.Registration

set_option autoImplicit false

namespace WorkspaceWatch

namespace Path

/-! ### Keys -/

/-- A path read from a directory in normal form begins with a slash. -/
theorem head?_within {directory path : List Char} (h : directory.head? = some '/') :
    (within directory path).head? = some '/' := by
  unfold within
  split
  · next hpath => exact beq_iff_eq.1 hpath
  · split <;> rw [List.head?_append, h] <;> rfl

/-- What stands behind a path does not tell where the path begins. -/
theorem within_append (directory : List Char) {path : List Char} (hne : path ≠ [])
    (behind : List Char) : within directory (path ++ behind) = within directory path ++ behind := by
  have hhead : (path ++ behind).head? = path.head? := by
    obtain ⟨c, rest, rfl⟩ := List.exists_cons_of_ne_nil hne
    rfl
  unfold within
  rw [hhead]
  by_cases hrooted : (path.head? == some '/') = true
  · rw [if_pos hrooted, if_pos hrooted]
  · rw [if_neg hrooted, if_neg hrooted]
    by_cases hends : (directory.isEmpty || directory.getLast? == some '/') = true
    · rw [if_pos hends, if_pos hends, List.append_assoc]
    · rw [if_neg hends, if_neg hends, List.append_assoc, List.cons_append]

/-- What is in a path is in the path that it is read as. -/
theorem mem_within {directory path : List Char} {c : Char} (h : c ∈ path) :
    c ∈ within directory path := by
  unfold within
  split
  · exact h
  · split
    · exact List.mem_append_right _ h
    · exact List.mem_append_right _ (List.mem_cons_of_mem _ h)

theorem toList_absolute (directory path : String) :
    (absolute directory path).toList = normalize (within directory.toList path.toList) :=
  String.toList_ofList

/-- A path in normal form is its own key. -/
theorem absolute_of_isNormal (directory : String) {path : String} (h : IsNormal path.toList) :
    absolute directory path = path := by
  apply String.toList_injective
  have hpath : within directory.toList path.toList = path.toList := by
    rw [within, h.rooted]
    rfl
  rw [toList_absolute, hpath, h.normalize_eq]

section Keys

variable {directory : String} (hdirectory : IsNormal directory.toList)

include hdirectory

/-- **A key is in normal form.** -/
theorem isNormal_absolute (path : String) : IsNormal (absolute directory path).toList := by
  rw [toList_absolute]
  exact isNormal_normalize (head?_within hdirectory.rooted)

theorem isNormal_projectPath (path? : Option String) :
    IsNormal (projectPath directory path?).toList := by
  cases path? with
  | none => exact hdirectory
  | some path => exact isNormal_absolute hdirectory path

/-! ### Other ways of writing a path -/

/-- What is written behind a path with a name in it makes no difference if its segments leave those
that stay. -/
theorem absolute_append {path : String} (hpath : ∃ c ∈ path.toList, c ≠ '/') (behind : String)
    (hbehind : ∀ kept, keepSegments true kept (splitAtMark '/' behind.toList) = kept.reverse) :
    absolute directory (path ++ "/" ++ behind) = absolute directory path := by
  obtain ⟨c, hc, hslash⟩ := hpath
  have hname : ∃ c ∈ within directory.toList path.toList, c ≠ '/' := ⟨c, mem_within hc, hslash⟩
  have htext : (path ++ "/" ++ behind).toList = path.toList ++ '/' :: behind.toList := by simp
  apply String.toList_injective
  rw [toList_absolute, toList_absolute, htext, within_append _ (List.ne_nil_of_mem hc),
    normalize_append (head?_within hdirectory.rooted) hname hbehind]

end Keys

/-- A path is written in another way: with a slash behind it, with a dot, or with the name of a
directory in it and two dots; and so on. -/
inductive Respells (path : String) : String → Prop
  | same : Respells path path
  | slash {other : String} : Respells path other → Respells path (other ++ "/")
  | dot {other : String} : Respells path other → Respells path (other ++ "/.")
  | detour {other name : String} : Respells path other → '/' ∉ name.toList → name ≠ "" →
      name ≠ "." → name ≠ ".." → Respells path (other ++ "/" ++ name ++ "/..")

theorem Respells.exists_name {path other : String} (h : Respells path other)
    (hpath : ∃ c ∈ path.toList, c ≠ '/') : ∃ c ∈ other.toList, c ≠ '/' := by
  -- a path that is written longer has all characters of the path
  have hbehind : ∀ {other behind : String}, (∃ c ∈ other.toList, c ≠ '/') →
      ∃ c ∈ (other ++ behind).toList, c ≠ '/' := by
    rintro other behind ⟨c, hc, hslash⟩
    refine ⟨c, ?_, hslash⟩
    rw [String.toList_append]
    exact List.mem_append_left _ hc
  induction h with
  | same => exact hpath
  | slash _ ih => exact hbehind ih
  | dot _ ih => exact hbehind ih
  | detour _ _ _ _ _ ih => exact hbehind (hbehind (hbehind ih))

/-- **A path that is written in another way has the same key.** -/
theorem Respells.absolute_eq {directory path other : String} (h : Respells path other)
    (hdirectory : IsNormal directory.toList) (hpath : ∃ c ∈ path.toList, c ≠ '/') :
    absolute directory other = absolute directory path := by
  induction h with
  | same => rfl
  | slash h ih =>
      have hbehind := absolute_append hdirectory (h.exists_name hpath) "" fun _ => rfl
      rwa [String.append_empty, ih] at hbehind
  | dot h ih =>
      have hbehind := absolute_append hdirectory (h.exists_name hpath) "." fun _ => rfl
      rwa [String.append_assoc, ih] at hbehind
  | @detour other name h hslash hempty hdot hdots ih =>
      have hname : IsName name.toList := by
        refine ⟨?_, ?_, ?_, hslash⟩
        · exact fun hnil => hempty (String.toList_injective hnil)
        · exact fun htext => hdot (String.toList_injective htext)
        · exact fun htext => hdots (String.toList_injective htext)
      have hsplit : splitAtMark '/' (name ++ "/..").toList = [name.toList, ['.', '.']] := by
        rw [String.toList_append]
        exact splitAtMark_append_mark '/' _ ['.', '.'] hslash
      have hbehind := absolute_append hdirectory (h.exists_name hpath) (name ++ "/..")
        fun kept => by rw [hsplit, keepSegments_detour hname]
      rwa [← String.append_assoc, ih] at hbehind

/-! ### The current directory -/

/-- A normal form that ends with a slash is one of two roots. -/
theorem IsNormal.eq_root {cs : List Char} (h : IsNormal cs) (hends : cs.getLast? = some '/') :
    cs = ['/'] ∨ cs = ['/', '/'] := by
  have hslashes := h.noEnd hends
  obtain ⟨n, names, hn, hnames, rfl⟩ := (isNormal_iff cs).1 h
  by_cases hne : names = []
  · rcases hn with rfl | rfl <;> rw [hne]
    · exact .inl rfl
    · exact .inr rfl
  · obtain ⟨c, rest, hjoin, hc⟩ := exists_joinWithMark_eq_cons hnames hne
    exact absurd (hslashes c (by simp [hjoin])) hc

/-- **A dot and nothing mean the current directory.** -/
theorem absolute_here {directory here : String} (hdirectory : IsNormal directory.toList)
    (hhere : here = "." ∨ here = "") : absolute directory here = directory := by
  apply String.toList_injective
  rw [toList_absolute]
  by_cases hends : directory.toList.getLast? = some '/'
  · rcases hdirectory.eq_root hends with hroot | hroot <;> rw [hroot] <;>
      rcases hhere with rfl | rfl <;> rfl
  -- the directory ends with a name, and a slash separates what is written behind it
  · have hname : ∃ c ∈ directory.toList, c ≠ '/' := by
      obtain ⟨rest, hcs⟩ := List.head?_eq_some_iff.1 hdirectory.rooted
      have hne : directory.toList ≠ [] := by rw [hcs]; exact List.cons_ne_nil _ _
      refine ⟨directory.toList.getLast hne, List.getLast_mem hne, fun hslash => hends ?_⟩
      rw [List.getLast?_eq_some_getLast hne, hslash]
    have hwithin :
        within directory.toList here.toList = directory.toList ++ '/' :: here.toList := by
      have hno : (directory.toList.isEmpty || directory.toList.getLast? == some '/') = false := by
        obtain ⟨c, hc, -⟩ := hname
        simp [List.ne_nil_of_mem hc, hends]
      unfold within
      rcases hhere with rfl | rfl <;> rw [hno] <;> rfl
    rw [hwithin, normalize_append hdirectory.rooted hname, hdirectory.normalize_eq]
    rcases hhere with rfl | rfl <;> exact fun kept => rfl

/-! ### Names of directories -/

theorem baseName_eq_empty_iff (path : String) :
    baseName path = "" ↔ path = "" ∨ path.toList.getLast? = some '/' := by
  have hempty : baseName path = "" ↔ path.toList.reverse.takeWhile (· != '/') = [] := by
    rw [baseName, ← String.toList_inj, String.toList_ofList, String.toList_empty,
      List.reverse_eq_nil_iff]
  have hpath : path = "" ↔ path.toList.reverse = [] := by
    rw [← String.toList_inj, String.toList_empty, List.reverse_eq_nil_iff]
  rw [hempty, hpath, ← List.head?_reverse]
  cases path.toList.reverse with
  | nil => simp
  | cons c rest => by_cases hc : c = '/' <;> simp [hc]

/-- **A key has no name exactly if it is nothing but slashes.** -/
theorem IsNormal.baseName_eq_empty_iff {path : String} (h : IsNormal path.toList) :
    baseName path = "" ↔ ∀ c ∈ path.toList, c = '/' := by
  obtain ⟨rest, hcs⟩ := List.head?_eq_some_iff.1 h.rooted
  rw [Path.baseName_eq_empty_iff]
  constructor
  · rintro (rfl | hends)
    · cases hcs
    · exact h.noEnd hends
  · intro hslashes
    have hne : path.toList ≠ [] := by rw [hcs]; exact List.cons_ne_nil _ _
    right
    rw [List.getLast?_eq_some_getLast hne, hslashes _ (List.getLast_mem hne)]

end Path

/-! ### Commands about a directory -/

/-- A command about another path, if it is about one. -/
def Command.withPath (path? : Option String) : Command → Command
  | status _ noProject => status path? noProject
  | workspaces => workspaces
  | init _ name? => init path? name?
  | watch _ pause count => watch path? pause count
  | tasks _ statuses => tasks path? statuses
  | taskAdd _ request => taskAdd path? request
  | taskDelete _ taskId => taskDelete path? taskId

/-- Commands know a directory by its key only. -/
theorem Command.run_withPath_congr {directory : String} {path? other? : Option String}
    (h : projectPath directory other? = projectPath directory path?) (command : Command)
    (c : Client) (reactions : List Reaction) :
    (command.withPath other?).run c directory reactions =
      (command.withPath path?).run c directory reactions := by
  cases command <;> simp only [withPath, run, h]

/-- The body of a request is an object with a text under a key. -/
def Request.Holds (request : Request) (key value : String) : Prop :=
  ∃ text entries, request.body? = some text ∧
    Json.decode? text.toUTF8 = some (.object entries) ∧
    Json.lookup? entries key = some (.text value)

/-- A registration posts the name that it is called by, or else that of its directory. -/
theorem Command.holds_of_mem_init {c : Client} {directory : String} {reactions : List Reaction}
    {path? name? : Option String} {request : Request}
    (h : request ∈ ((Command.init path? name?).run c directory reactions).requests) :
    request.Holds "name" (orElse name? (Path.baseName (projectPath directory path?))) := by
  rw [run_init] at h
  have hsent := Action.mem_run_of_mem_requests (fun _ _ => rfl) h
  have hbody := (Client.request_eq_ok (Client.request_of_mem_run hsent)).2.2
  exact ⟨_, _, hbody, (registration directory path? name?).toRow.decode?_dump _, rfl⟩

/-- **All commands know a directory by one key.**  The key of a path is in normal form, and is its
own key.  A path that is written in another way has the same key, so that all commands do the same
with it; and so it is with a dot, with nothing, and without a path.  A directory that is registered
without a name is posted with one, unless its key is nothing but slashes. -/
theorem Path.spellings_share_key {directory : String} (hdirectory : IsNormal directory.toList)
    {path : String} (hpath : ∃ c ∈ path.toList, c ≠ '/') :
    IsNormal (absolute directory path).toList ∧
    absolute directory (absolute directory path) = absolute directory path ∧
    (∀ other, Respells path other → absolute directory other = absolute directory path ∧
      ∀ (command : Command) (c : Client) (reactions : List Reaction),
        (command.withPath (some other)).run c directory reactions =
          (command.withPath (some path)).run c directory reactions) ∧
    (∀ here, here = "." ∨ here = "" →
      absolute directory here = projectPath directory none ∧
      ∀ (command : Command) (c : Client) (reactions : List Reaction),
        (command.withPath (some here)).run c directory reactions =
          (command.withPath none).run c directory reactions) ∧
    (∀ (path? : Option String) (c : Client) (reactions : List Reaction),
      ∀ request ∈ ((Command.init path? none).run c directory reactions).requests,
        ∃ name, request.Holds "name" name ∧
          (name = "" ↔ ∀ c ∈ (projectPath directory path?).toList, c = '/')) := by
  have hkey := isNormal_absolute hdirectory path
  refine ⟨hkey, absolute_of_isNormal directory hkey, ?_, ?_, ?_⟩
  · intro other hother
    have hsame := hother.absolute_eq hdirectory hpath
    exact ⟨hsame, Command.run_withPath_congr hsame⟩
  · intro here hhere
    have hsame := absolute_here hdirectory hhere
    exact ⟨hsame, Command.run_withPath_congr hsame⟩
  · intro path? c reactions request hrequest
    exact ⟨_, Command.holds_of_mem_init hrequest,
      (isNormal_projectPath hdirectory path?).baseName_eq_empty_iff⟩

/-- A directory on the way back from two others, in a directory with two slashes in front. -/
theorem Path.spellings_share_key_detour :
    IsNormal "//srv/a".toList ∧ (∃ c ∈ "../b//c".toList, c ≠ '/') ∧
      absolute "//srv/a" "../b//c" = "//srv/b/c" ∧
      absolute "//srv/a" "../b//c/..d/../." = "//srv/b/c" ∧
      absolute "//srv/a" "." = "//srv/a" := by
  have hdirectory : IsNormal "//srv/a".toList := by
    refine (isNormal_iff _).2 ⟨2, ["srv".toList, "a".toList], .inr rfl, ?_, rfl⟩
    intro s hs
    rcases List.mem_pair.1 hs with rfl | rfl <;> exact ⟨by decide, by decide, by decide, by decide⟩
  have hpath : ∃ c ∈ "../b//c".toList, c ≠ '/' := ⟨'b', by decide, by decide⟩
  have hkey : absolute "//srv/a" "../b//c" = "//srv/b/c" := by decide
  have hdetour : Respells "../b//c" "../b//c/..d/../." :=
    .dot (@Respells.detour _ _ "..d" .same (by decide) (by decide) (by decide) (by decide))
  obtain ⟨-, -, hother, hhere, -⟩ := spellings_share_key hdirectory hpath
  exact ⟨hdirectory, hpath, hkey, (hother _ hdetour).1.trans hkey, (hhere "." (.inl rfl)).1⟩

end WorkspaceWatch
