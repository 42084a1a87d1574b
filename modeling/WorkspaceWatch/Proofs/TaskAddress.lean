/-
**Which task a request is about.**

The identifiers of a task and of its workspace are written into the path of a request as they are.
The URL that is sent stands for that task exactly if both identifiers are plain: no mark that cuts
a path or ends it, no escape, no dot segment.  With any other identifier the request is about
something else, which may be the workspace itself.

Main definitions:

* `WorkspaceWatch.TaskAction` — what is asked about one task;
* `WorkspaceWatch.Url.Addresses` — a URL stands for a task below another URL;
* `WorkspaceWatch.isPlain` — an identifier means itself in a path.

Main results:

* `WorkspaceWatch.Url.Addresses.unique` — a URL stands for one task at most;
* `WorkspaceWatch.Client.request_addresses_iff` — **the URL of a request stands for the task exactly
  if both identifiers are plain**;
* `WorkspaceWatch.Client.deleteTask_reaches_workspace` — a request to remove a task that is about
  its workspace.
-/

import WorkspaceWatch.Proofs.Exchange
import WorkspaceWatch.Proofs.Target

set_option autoImplicit false

namespace WorkspaceWatch

/-- What is asked about one task: what it is, to replace it, or to remove it. -/
inductive TaskAction where
  | get
  | update (task : TaskRequest)
  | delete

/-- The order of an action on a task of a workspace. -/
def TaskAction.order : TaskAction → String → String → Order
  | get, w, t => (Call.getTask w t).order
  | update task, w, t => (Call.updateTask w t task).order
  | delete, w, t => (Call.deleteTask w t).order

/-- The segments that stand for a task: its identifier behind that of its workspace. -/
def taskSegments (w t : String) : List (List Char) :=
  ["workspaces".toList, w.toList, "tasks".toList, t.toList]

/-- A URL stands for a task below another URL: it has no query, and its path is that of the other
URL with the segments of the task behind it, each perhaps escaped. -/
def Url.Addresses (u url : Url) (w t : String) : Prop :=
  url.query = none ∧ ∃ segments, url.path = u.directory ++ joinWithMark '/' segments ∧
    (∀ s ∈ segments, '/' ∉ s) ∧ segments.map percentDecode = taskSegments w t

/-- Whether an identifier means itself in a path. -/
def isPlain (id : String) : Bool :=
  id.toList.all (fun c => c != '/' && !Url.endsPath c) && !hasEscape id.toList && !isDots id.toList

theorem isPlain_iff (id : String) :
    isPlain id = true ↔ '/' ∉ id.toList ∧ (∀ c ∈ id.toList, Url.endsPath c = false) ∧
      hasEscape id.toList = false ∧ isDots id.toList = false := by
  simp only [isPlain, Bool.and_eq_true, List.all_eq_true, bne_iff_ne, ne_eq, Bool.not_eq_true',
    forall_and]
  constructor
  · rintro ⟨⟨⟨h₁, h₂⟩, h₃⟩, h₄⟩
    exact ⟨fun h => h₁ _ h rfl, h₂, h₃, h₄⟩
  · rintro ⟨h₁, h₂, h₃, h₄⟩
    exact ⟨⟨⟨fun c hc heq => h₁ (heq ▸ hc), h₂⟩, h₃⟩, h₄⟩

/-! ### The segments of a task -/

theorem length_of_taskSegments {segments : List (List Char)} {w t : String}
    (h : segments.map percentDecode = taskSegments w t) : segments.length = 4 := by
  rw [← List.length_map, h]
  rfl

theorem splitAtMark_of_taskSegments {segments : List (List Char)} {w t : String}
    (h : segments.map percentDecode = taskSegments w t) (hmarks : ∀ s ∈ segments, '/' ∉ s) :
    splitAtMark '/' (joinWithMark '/' segments) = segments := by
  refine splitAtMark_joinWithMark '/' segments ?_ hmarks
  rintro rfl
  cases h

/-- A URL stands for one task at most. -/
theorem Url.Addresses.unique {u url : Url} {w t w' t' : String} (h : u.Addresses url w t)
    (h' : u.Addresses url w' t') : w' = w ∧ t' = t := by
  obtain ⟨-, segments, hpath, hmarks, hdecode⟩ := h
  obtain ⟨-, segments', hpath', hmarks', hdecode'⟩ := h'
  have hjoin := List.append_cancel_left (hpath.symm.trans hpath')
  have hsegments : segments = segments' := by
    rw [← splitAtMark_of_taskSegments hdecode hmarks, hjoin,
      splitAtMark_of_taskSegments hdecode' hmarks']
  rw [← hsegments, hdecode] at hdecode'
  simp only [taskSegments, List.cons.injEq, true_and, and_true] at hdecode'
  exact ⟨String.toList_inj.1 hdecode'.1.symm, String.toList_inj.1 hdecode'.2.symm⟩

/-- A URL that stands for a task has four more segments than the other URL. -/
theorem Url.Addresses.length_splitAtMark {u url : Url} {w t : String} (h : u.Addresses url w t)
    (own : List Char) (hown : url.path = u.directory ++ own) : (splitAtMark '/' own).length = 4 := by
  obtain ⟨-, segments, hpath, hmarks, hdecode⟩ := h
  rw [List.append_cancel_left (hown.symm.trans hpath), splitAtMark_of_taskSegments hdecode hmarks,
    length_of_taskSegments hdecode]

/-- The text of a task's path, without the slash in front. -/
def taskText (w t : String) : List Char := joinWithMark '/' (taskSegments w t)

theorem TaskAction.order_path (action : TaskAction) (w t : String) :
    (action.order w t).path.toList = '/' :: taskText w t := by
  cases action <;> simp [order, Call.getTask, Call.updateTask, Call.deleteTask, Call.taskPath,
    Call.tasksPath, taskText, taskSegments, joinWithMark]

theorem TaskAction.order_query (action : TaskAction) (w t : String) :
    (action.order w t).query? = none := by
  cases action <;> rfl

theorem count_taskText (w t : String) :
    (taskText w t).count '/' = w.toList.count '/' + t.toList.count '/' + 3 := by
  simp only [taskText, taskSegments, joinWithMark, List.count_append, List.count_cons]
  have hworkspaces : "workspaces".toList.count '/' = 0 := by decide
  have htasks : "tasks".toList.count '/' = 0 := by decide
  simp only [hworkspaces, htasks, beq_self_eq_true, if_true]
  omega

theorem splitAtMark_taskText {w t : String} (hw : '/' ∉ w.toList) (ht : '/' ∉ t.toList) :
    splitAtMark '/' (taskText w t) = taskSegments w t := by
  refine splitAtMark_joinWithMark '/' _ (by simp [taskSegments]) ?_
  intro s hs
  simp only [taskSegments, List.mem_cons, List.not_mem_nil, or_false] at hs
  rcases hs with rfl | rfl | rfl | rfl
  · decide
  · exact hw
  · decide
  · exact ht

theorem mem_taskText {w t : String} (c : Char) :
    c ∈ taskText w t ↔ c ∈ "workspaces//tasks/".toList ∨ c ∈ w.toList ∨ c ∈ t.toList := by
  have hmarks : "workspaces//tasks/".toList =
      "workspaces".toList ++ '/' :: ('/' :: ("tasks".toList ++ ['/'])) := by decide
  simp only [hmarks, taskText, taskSegments, joinWithMark, List.mem_append, List.mem_cons,
    List.not_mem_nil, or_false]
  tauto

/-- Segments that stand for a task stand for as many characters as its text has. -/
theorem spelledLength_of_taskSegments {segments : List (List Char)} {w t : String}
    (h : segments.map percentDecode = taskSegments w t) :
    spelledLength segments = (taskText w t).length + 1 := by
  have hlength := length_joinWithMark '/' (show taskSegments w t ≠ [] by simp [taskSegments])
  rw [taskText, hlength, ← h, total_map, spelledLength]

section Directory

variable {u url : Url} {w t : String} (hfinal : Url.IsFinal u.directory)
  (hpath : url.path = percentEncode Url.keepsPath
    (Url.normalizePath (u.directory ++ Url.sentPath (taskText w t))))
include hfinal hpath

/-- The segments of the path are those of the base with those of the task behind them, but for dot
segments. -/
theorem splitAtMark_path (hne : url.path ≠ []) {before : List Char}
    (hbefore : u.directory = before ++ ['/']) :
    splitAtMark '/' url.path = Url.removeDots []
        (splitAtMark '/' before ++ splitAtMark '/' (Url.sentPath (taskText w t))) ∧
      ∀ s ∈ splitAtMark '/' before, isDots s = false := by
  have hsplit : splitAtMark '/' (u.directory ++ Url.sentPath (taskText w t)) =
      splitAtMark '/' before ++ splitAtMark '/' (Url.sentPath (taskText w t)) := by
    rw [hbefore, List.append_assoc, List.singleton_append, splitAtMark_append]
  constructor
  · rw [← hsplit, hpath]
    refine Url.splitAtMark_percentEncode_normalizePath ?_ ?_
    · intro c hc
      rcases List.mem_append.1 hc with hc | hc
      · exact hfinal.keeps c hc
      · exact keep_of_mem_percentEncode Url.keepsEscapes_keepsPath hc
    · intro hnil
      rw [Url.normalizePath, hnil] at hpath
      exact hne hpath
  · intro s hs
    refine hfinal.noDots s ?_
    rw [hbefore, splitAtMark_append]
    exact List.mem_append_left _ hs

/-- **If the URL stands for the task, nothing of its text was cut off, taken along or read as an
escape.** -/
theorem Url.Addresses.taskText_intact (h : u.Addresses url w t) :
    (∀ c ∈ taskText w t, endsPath c = false) ∧
      (∀ s ∈ splitAtMark '/' (taskText w t), hasEscape s = false ∧ isDots s = false) ∧
      (splitAtMark '/' (taskText w t)).length = 4 := by
  obtain ⟨-, segments, hjoin, hmarks, hdecode⟩ := h
  obtain ⟨before, hbefore⟩ := u.exists_directory_eq
  have hsplit : splitAtMark '/' url.path = splitAtMark '/' before ++ segments := by
    rw [hjoin, hbefore, List.append_assoc, List.singleton_append, splitAtMark_append,
      splitAtMark_of_taskSegments hdecode hmarks]
  have hnonempty : url.path ≠ [] := by
    rw [hjoin, hbefore]
    simp
  obtain ⟨hremoved, hdots⟩ := splitAtMark_path hfinal hpath hnonempty hbefore
  -- the four segments stand for as many characters as the task's text has, and on the way from
  -- that text to the URL the number can only go down
  have hspelled := spelledLength_of_taskSegments hdecode
  have hle := spelledLength_sentPath_le (taskText w t)
  obtain ⟨hsent, hsentDots⟩ := eq_of_removeDots_append hdots (hremoved.symm.trans hsplit) (by omega)
  obtain ⟨hends, hescapes⟩ := intact_of_spelledLength_sentPath (by rw [hsent, hspelled])
  have hmap : splitAtMark '/' (sentPath (taskText w t)) =
      (splitAtMark '/' (taskText w t)).map (percentEncode keepsPath) := by
    rw [sentPath_of_endsPath hends, splitAtMark_percentEncode_keepsPath]
  rw [hmap] at hsent hsentDots
  refine ⟨hends, ?_, ?_⟩
  · intro s hs
    have hs' := hsentDots _ (List.mem_map_of_mem hs)
    rw [isDots_percentEncode] at hs'
    exact ⟨hescapes s hs, hs'⟩
  · rw [← length_of_taskSegments hdecode, ← hsent, List.length_map]

omit hfinal hpath in
/-- A task's text that has its four segments is made up of plain identifiers. -/
theorem isPlain_of_taskText_intact (hends : ∀ c ∈ taskText w t, Url.endsPath c = false)
    (hsegments : ∀ s ∈ splitAtMark '/' (taskText w t), hasEscape s = false ∧ isDots s = false)
    (hlength : (splitAtMark '/' (taskText w t)).length = 4) :
    isPlain w = true ∧ isPlain t = true := by
  rw [length_splitAtMark, count_taskText] at hlength
  have hw : '/' ∉ w.toList := List.count_eq_zero.1 (by omega)
  have ht : '/' ∉ t.toList := List.count_eq_zero.1 (by omega)
  rw [splitAtMark_taskText hw ht] at hsegments
  have hsw := hsegments w.toList (by simp [taskSegments])
  have hst := hsegments t.toList (by simp [taskSegments])
  constructor
  · exact (isPlain_iff w).2 ⟨hw, fun c hc => hends c ((mem_taskText c).2 (.inr (.inl hc))), hsw⟩
  · exact (isPlain_iff t).2 ⟨ht, fun c hc => hends c ((mem_taskText c).2 (.inr (.inr hc))), hst⟩

/-- **Plain identifiers give a URL that stands for the task.** -/
theorem addresses_of_isPlain
    (hquery : (∀ c ∈ taskText w t, Url.endsPath c = false) → url.query = none)
    (hw : isPlain w = true) (ht : isPlain t = true) : u.Addresses url w t := by
  obtain ⟨hwmark, hwends, hwescape, hwdots⟩ := (isPlain_iff w).1 hw
  obtain ⟨htmark, htends, htescape, htdots⟩ := (isPlain_iff t).1 ht
  have hends : ∀ c ∈ taskText w t, Url.endsPath c = false := by
    intro c hc
    rcases (mem_taskText c).1 hc with h | h | h
    · have hmarks : ("workspaces//tasks/".toList.all fun c => !Url.endsPath c) = true := by rfl
      simpa using List.all_eq_true.1 hmarks c h
    · exact hwends c h
    · exact htends c h
  have hsegments : ∀ s ∈ taskSegments w t, hasEscape s = false ∧ isDots s = false := by
    intro s hs
    simp only [taskSegments, List.mem_cons, List.not_mem_nil, or_false] at hs
    rcases hs with rfl | rfl | rfl | rfl
    · decide
    · exact ⟨hwescape, hwdots⟩
    · decide
    · exact ⟨htescape, htdots⟩
  have hsent : splitAtMark '/' (Url.sentPath (taskText w t)) =
      (taskSegments w t).map (percentEncode Url.keepsPath) := by
    rw [Url.sentPath_of_endsPath hends, Url.splitAtMark_percentEncode_keepsPath,
      splitAtMark_taskText hwmark htmark]
  have hown : Url.IsFinal (Url.sentPath (taskText w t)) := by
    refine ⟨fun c hc => keep_of_mem_percentEncode Url.keepsEscapes_keepsPath hc, ?_⟩
    intro s hs
    rw [hsent, List.mem_map] at hs
    obtain ⟨raw, hraw, rfl⟩ := hs
    rw [Url.isDots_percentEncode]
    exact (hsegments raw hraw).2
  have hwhole := hfinal.directory_append hown
  refine ⟨hquery hends, (taskSegments w t).map (percentEncode Url.keepsPath), ?_, ?_, ?_⟩
  · rw [hpath, hwhole.percentEncode_normalizePath, ← hsent, joinWithMark_splitAtMark]
  · intro s hs
    rw [← hsent] at hs
    exact notMem_of_mem_splitAtMark hs
  · rw [List.map_map]
    refine (List.map_congr_left ?_).trans (List.map_id _)
    intro s hs
    simp only [Function.comp_apply, percentDecode_percentEncode Url.keepsEscapes_keepsPath, id]
    exact percentDecode_of_not_hasEscape (hsegments s hs).1

end Directory

namespace Client

/-- **The URL of a request stands for the task exactly if both identifiers are plain.**  Then it
stands for no other task, and a request about another task with plain identifiers has another
URL. -/
theorem request_addresses_iff {c : Client} {u : Url} (hu : Url.parse c.baseUrl = .ok u)
    (hscheme : u.scheme = "http" ∨ u.scheme = "https") (hquery : u.query = none)
    (action : TaskAction) (w t : String) {request : Request}
    (h : c.request (action.order w t) = .ok request) :
    (u.Addresses request.url w t ↔ isPlain w = true ∧ isPlain t = true) ∧
      (u.Addresses request.url w t → ∀ w' t', u.Addresses request.url w' t' → w' = w ∧ t' = t) ∧
      ∀ (action' : TaskAction) (w' t' : String) (request' : Request),
        c.request (action'.order w' t') = .ok request' → u.Addresses request.url w t →
        isPlain w' = true → isPlain t' = true → request'.url = request.url → w' = w ∧ t' = t := by
  have hne : u.scheme ≠ "" := by
    rcases hscheme with hs | hs <;> rw [hs] <;> decide
  have hfinal := (Url.isFinal_path hu hne).directory
  have haddress : ∀ (action : TaskAction) (w t : String) (request : Request),
      c.request (action.order w t) = .ok request →
      (u.Addresses request.url w t ↔ isPlain w = true ∧ isPlain t = true) := by
    intro action w t request h
    obtain ⟨hpath, hnone⟩ := address_path hu hne hquery (action.order_query w t) (d := 'w')
      (by decide) (action.order_path w t) (request_eq_ok h).1
    constructor
    · intro ha
      obtain ⟨hends, hsegments, hlength⟩ := ha.taskText_intact hfinal hpath
      exact isPlain_of_taskText_intact hends hsegments hlength
    · rintro ⟨hw, ht⟩
      exact addresses_of_isPlain hfinal hpath hnone hw ht
  refine ⟨haddress action w t request h, fun ha w' t' ha' => ha.unique ha', ?_⟩
  intro action' w' t' request' h' ha hw' ht' hurl
  have ha' := (haddress action' w' t' request' h').2 ⟨hw', ht'⟩
  rw [hurl] at ha'
  exact ha.unique ha'

/-- The URL below which requests go if nothing else is said. -/
def defaultUrl : Url := ⟨"http", "", "localhost", some 8855, "/api/v1".toList, none, none⟩

/-- A request to remove something at a path, if nothing else is said. -/
def defaultRemoval (path : String) : Request :=
  ⟨.delete, { defaultUrl with path := path.toList }, none, some defaultConnectTimeout⟩

/-- A task with plain identifiers is the one that is removed. -/
theorem deleteTask_addresses_task :
    Url.parse ({} : Client).baseUrl = .ok defaultUrl ∧
      ({} : Client).request (TaskAction.delete.order "w1" "t1") =
        .ok (defaultRemoval "/api/v1/workspaces/w1/tasks/t1") ∧
      defaultUrl.Addresses (defaultRemoval "/api/v1/workspaces/w1/tasks/t1").url "w1" "t1" := by
  have hparse : Url.parse ({} : Client).baseUrl = .ok defaultUrl := by rfl
  have hsent : ({} : Client).request (TaskAction.delete.order "w1" "t1") =
      .ok (defaultRemoval "/api/v1/workspaces/w1/tasks/t1") := by rfl
  have haddresses := request_addresses_iff hparse (.inl rfl) rfl .delete "w1" "t1" hsent
  exact ⟨hparse, hsent, haddresses.1.2 ⟨by decide, by decide⟩⟩

/-- A request to remove a task whose identifier is two dots is about its workspace. -/
theorem deleteTask_reaches_workspace :
    Url.parse ({} : Client).baseUrl = .ok defaultUrl ∧
      ({} : Client).request (TaskAction.delete.order "w1" "..") =
        .ok (defaultRemoval "/api/v1/workspaces/w1") ∧
      ¬defaultUrl.Addresses (defaultRemoval "/api/v1/workspaces/w1").url "w1" ".." := by
  refine ⟨by rfl, by rfl, ?_⟩
  intro h
  have hlength := h.length_splitAtMark "workspaces/w1".toList rfl
  revert hlength
  decide

end Client

end WorkspaceWatch
