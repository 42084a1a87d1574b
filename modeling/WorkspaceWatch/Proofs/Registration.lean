/-
**What is registered is what is looked up.**

The directory of a new workspace is written into the body of a request, and comes back in the
listings of the daemon.  All commands bring the path that they are given into the same form, the
body keeps every character of it, and a listing is searched for that very text.  So once the daemon
lists a workspace for a directory, every command finds it there, under the path that registered it.

Main definitions:

* `WorkspaceWatch.Request.Names` — the body of a request names a directory.

Main results:

* `WorkspaceWatch.Client.names_of_mem_run` — the request to create a workspace names its directory;
* `WorkspaceWatch.Situation.registered_directory_found` — **a directory that was registered is found
  by every command**;
* `WorkspaceWatch.Situation.init_of_red_workspace` — the identifier of a new workspace loses its
  escape sequences where it is not printed on a terminal.
-/

import WorkspaceWatch.Proofs.RequestBody
import WorkspaceWatch.Proofs.Reporting

set_option autoImplicit false

namespace WorkspaceWatch

/-! ### The directory that a request names -/

/-- The body of a request names a directory: it is an object that has the directory under
`localRepoDir`. -/
def Request.Names (request : Request) (directory : String) : Prop :=
  ∃ text entries, request.body? = some text ∧
    Json.decode? text.toUTF8 = some (.object entries) ∧
    Json.lookup? entries "localRepoDir" = some (.text directory)

theorem Request.Names.unique {request : Request} {d d' : String} (h : request.Names d)
    (h' : request.Names d') : d' = d := by
  obtain ⟨text, entries, hbody, hdecode, hlookup⟩ := h
  obtain ⟨text', entries', hbody', hdecode', hlookup'⟩ := h'
  rw [hbody] at hbody'
  cases hbody'
  rw [hdecode] at hdecode'
  cases hdecode'
  rw [hlookup] at hlookup'
  cases hlookup'
  rfl

/-- **The request to create a workspace names its directory**, whatever characters it has. -/
theorem Client.names_of_mem_run {c : Client} {w : WorkspaceCreate} {reactions : List Reaction}
    {request : Request} (h : request ∈ (c.run (Call.createWorkspace w) reactions).request?) :
    request.Names w.directory := by
  have hbody := (request_eq_ok (request_of_mem_run h)).2.2
  exact ⟨_, _, hbody, w.toRow.decode?_dump _, rfl⟩

/-- A command that makes one call sends one request. -/
theorem Action.mem_run_of_mem_requests {α : Type} {c : Client} {call : Call α}
    {reactions : List Reaction} {next : α → List Reaction → Action}
    (hnext : ∀ v rest, (next v rest).requests = []) {request : Request}
    (h : request ∈ (Action.call c call reactions next).requests) :
    request ∈ (c.run call reactions).request? := by
  rcases Action.mem_requests_call h with h | ⟨v, h⟩
  · exact h
  · rw [hnext] at h
    cases h

/-- The workspace that is to be created for a path. -/
def registration (directory : String) (path? name? : Option String) : WorkspaceCreate :=
  ⟨Command.orElse name? (Path.baseName (projectPath directory path?)), projectPath directory path?⟩

/-- Registering a path is one call. -/
theorem Command.run_init (c : Client) (directory : String) (reactions : List Reaction)
    (path? name? : Option String) :
    (Command.init path? name?).run c directory reactions =
      Action.call c (Call.createWorkspace (registration directory path? name?)) reactions
        fun w _ => { lines := [(Status.found w.id).text] } := rfl

/-- A response to the creation of a workspace, out of its coding, reports success and returns a
workspace. -/
def Response.Returns (raw : Response) (w : Workspace) : Prop :=
  ∃ response, raw.decoded = .ok response ∧ (200 ≤ response.status ∧ response.status ≤ 299) ∧
    ∃ sent, Reply.workspace.decode response.body = .ok sent ∧ Workspace.ofEntry sent.entry = w

theorem Response.Returns.run_result {c : Client} {w : WorkspaceCreate} {request : Request}
    (hrequest : c.request (Call.createWorkspace w).order = .ok request) {response : Response}
    {found : Workspace} (h : response.Returns found) (rest : List Reaction) :
    (c.run (Call.createWorkspace w) (.respond response :: rest)).result = .ok found := by
  obtain ⟨decoded, hdecoded, hstatus, sent, hdecode, rfl⟩ := h
  have hread : Call.readWorkspace decoded = .ok (Workspace.ofEntry sent.entry) := by
    rw [Call.readWorkspace, Call.readable, hdecode]
    rfl
  exact Client.run_result_of_success rfl hrequest hdecoded hstatus hread rest

namespace Situation

variable {s : Situation} {words : List String} {c : Client} {d : Diagnostics} {shown : String}
  {path? name? : Option String}

/-- The request of a registration is that of the one call. -/
theorem Calls.mem_run_of_init (h : s.Calls words c d shown (.init path? name?)) {request : Request}
    (hrequest : request ∈ (s.run words).requests) :
    request ∈ (c.run (Call.createWorkspace (registration s.directory path? name?))
      s.reactions).request? := by
  rw [h.requests_eq, Command.run_init] at hrequest
  exact Action.mem_run_of_mem_requests (fun _ _ => rfl) hrequest

/-- A registration shows the identifier of the workspace that is returned. -/
theorem Calls.shows_init (h : s.Calls words c d shown (.init path? name?)) {request : Request}
    (hrequest : request ∈ (s.run words).requests) {response : Response} {rest : List Reaction}
    (hreactions : s.reactions = .respond response :: rest) {found : Workspace}
    (hfound : response.Returns found) :
    (s.run words).Shows d s.onTerminal shown (Session.run c s.reactions
      [.createWorkspace (registration s.directory path? name?)]) ["Found workspace " ++ found.id]
      none := by
  have hsent := Client.request_of_mem_run (h.mem_run_of_init hrequest)
  refine h.shows ?_
  rw [Command.run_init, hreactions]
  exact (Session.Step.makes_createWorkspace _).call_of_ok (hfound.run_result hsent rest) rfl

/-- A status shows the identifier of the first workspace bound to the directory. -/
theorem Calls.shows_status (h : s.Calls words c d shown (.status path? false)) {first : Reaction}
    {rest : List Reaction} (hreactions : s.reactions = first :: rest) {ws : List Workspace}
    {id : String} (hws : c.Lists first ws)
    (hid : IsFirstBound ws (projectPath s.directory path?) id) :
    (s.run words).Shows d s.onTerminal shown (Session.run c s.reactions
      [.resolve (some (projectPath s.directory path?))]) ["Found workspace " ++ id] none := by
  have hresolves := hws.resolves (some (projectPath s.directory path?))
  rw [(Status.ofListing_eq_found_iff _ ws id).2 ⟨_, rfl, hid⟩] at hresolves
  exact h.shows_status_of_resolves hreactions hresolves

/-- What is printed about a workspace that is found. -/
theorem out_eq_of_found {p : ProgramReport} {reports : List (Report Session.Answer)} {id : String}
    (h : p.Shows d s.onTerminal shown reports ["Found workspace " ++ id] none) :
    p.out = "Found workspace " ++ printed s.onTerminal id ++ "\n" := by
  rw [h.out, List.map_cons, List.map_nil, String.intercalate_singleton,
    printed_append (by decide) s.onTerminal id]

/-- **A directory that was registered is found by every command.**  The request of a registration
names one directory.  If the daemon returns a workspace, its identifier is shown as it is printed;
and once the daemon lists a workspace with that identifier as the first one bound to the directory
that the request named, a status for the same path shows the same, and every command about tasks for
that path goes on with that workspace. -/
theorem registered_directory_found (h : s.Calls words c d shown (.init path? name?))
    {request : Request} (hrequest : request ∈ (s.run words).requests) :
    ∃ directory, request.Names directory ∧ (∀ other, request.Names other → other = directory) ∧
      ∀ response rest found, s.reactions = .respond response :: rest → response.Returns found →
        (s.run words).out = "Found workspace " ++ printed s.onTerminal found.id ++ "\n" ∧
        (s.run words).ending = .exit 0 ∧
        ∀ (later : Situation) words' c' d' shown' first, later.directory = s.directory →
          ∀ ws, Client.Lists c' first ws → IsFirstBound ws directory found.id →
            (∀ rest, later.Calls words' c' d' shown' (.status path? false) →
              later.reactions = first :: rest →
                (later.run words').out =
                  "Found workspace " ++ printed later.onTerminal found.id ++ "\n" ∧
                (later.onTerminal = s.onTerminal → (later.run words').out = (s.run words).out) ∧
                (later.run words').ending = .exit 0) ∧
            ∀ (t : TaskCommand) rest, later.Calls words' c' d' shown' (t.command path?) →
              later.reactions = first :: rest →
                (later.run words').requests = (Session.run c' later.reactions
                  [.resolve (some directory), (t.operation found.id).step]).flatMap
                    (·.request?.toList) := by
  have hnames := Client.names_of_mem_run (h.mem_run_of_init hrequest)
  refine ⟨projectPath s.directory path?, hnames, fun other h' => hnames.unique h', ?_⟩
  intro response rest found hreactions hfound
  have hshows := h.shows_init hrequest hreactions hfound
  have hout := out_eq_of_found hshows
  -- the later commands are about the same text, because they start in the same directory
  refine ⟨hout, hshows.ending, ?_⟩
  intro later words' c' d' shown' first hdirectory ws hws hid
  rw [← hdirectory] at hid ⊢
  constructor
  · intro rest' h' hreactions'
    have hshows' := h'.shows_status hreactions' hws hid
    have hout' := out_eq_of_found hshows'
    refine ⟨hout', fun hsame => ?_, hshows'.ending⟩
    rw [hout', hout, hsame]
  · intro t rest' h' hreactions'
    rw [h'.requests_eq, hreactions']
    exact t.requests_run_of_isFirstBound hws hid rest'

/-- The daemon answers that a workspace was created. -/
def registering (id : String) : Situation where
  directory := "/p"
  surroundings := ⟨[], none⟩
  client? := none
  reactions := [.respond (.ofJson 201 (.object [("id", .text id)]))]

theorem returns_registering (id : String) :
    Response.Returns (.ofJson 201 (.object [("id", .text id)])) ⟨id, none, none, none, none⟩ := by
  have hread : Json.decode? (Response.ofJson 201 (.object [("id", .text id)])).body =
      some (.object [("id", .text id)]) := by
    rw [Response.body_ofJson]
    exact Json.decode?_compact (by simp [Json.IsLegible, Json.HasLegible])
      (show (1 : Nat) ≤ Json.maxDepth by decide)
  refine ⟨_, Response.decoded_ofJson _ _, show 200 ≤ 201 ∧ 201 ≤ 299 by decide, ?_⟩
  simp only [Reply.decode, hread]
  exact ⟨_, rfl, rfl⟩

/-- A path is registered with a quote, two dots and a slash at its end. -/
theorem calls_init (id : String) :
    (registering id).Calls ["init", "q\"/../"] {} .usual "" (.init (some "q\"/../") none) :=
  @Calls.intro _ _ ⟨[], ["init", "q\"/../"]⟩ ⟨[], ["q\"/../"]⟩ "init" ["q\"/../"] .init {} ""
    _ rfl rfl rfl rfl rfl Diagnostics.setup_usual rfl rfl rfl

theorem exists_request_registering (id : String) :
    ∃ request, request ∈ ((registering id).run ["init", "q\"/../"]).requests := by
  obtain ⟨request, hrequest⟩ : ∃ request, (({} : Client).run (Call.createWorkspace
      (registration "/p" (some "q\"/../") none)) (registering id).reactions).request? =
        some request := ⟨_, rfl⟩
  rw [(calls_init id).requests_eq, Command.run_init]
  exact ⟨request, List.mem_append_left _ (Option.mem_toList.2 hrequest)⟩

/-- A directory is registered and found under a path with a quote, two dots and a slash at its
end. -/
theorem registered_directory_found_again :
    (registering "w1").Calls ["init", "q\"/../"] {} .usual "" (.init (some "q\"/../") none) ∧
      (listing "w1" ⟨204, [], .empty⟩).Calls ["status", "q\"/../"] {} .usual ""
        (.status (some "q\"/../") false) ∧
      ((registering "w1").run ["init", "q\"/../"]).out = "Found workspace w1\n" ∧
      ((listing "w1" ⟨204, [], .empty⟩).run ["status", "q\"/../"]).out =
        "Found workspace w1\n" := by
  have hinit := calls_init "w1"
  have hstatus : (listing "w1" ⟨204, [], .empty⟩).Calls ["status", "q\"/../"] {} .usual ""
      (.status (some "q\"/../") false) :=
    @Calls.intro _ _ ⟨[], ["status", "q\"/../"]⟩ ⟨[], ["q\"/../"]⟩ "status" ["q\"/../"] .status {}
      "" _ rfl rfl rfl rfl rfl Diagnostics.setup_usual rfl rfl rfl
  obtain ⟨request, hrequest⟩ := exists_request_registering "w1"
  have hnames := Client.names_of_mem_run (hinit.mem_run_of_init hrequest)
  obtain ⟨d, -, hunique, hfound⟩ := registered_directory_found hinit hrequest
  have hbound : IsFirstBound [⟨"w1", none, some "/p", none, none⟩] d "w1" := by
    rw [← hunique _ hnames]
    exact isFirstBound_oneWorkspace "w1"
  obtain ⟨hout, -, hlater⟩ := hfound _ [] _ rfl (returns_registering "w1")
  obtain ⟨hsame, -⟩ :=
    hlater (listing "w1" ⟨204, [], .empty⟩) _ _ _ _ _ rfl _ (lists_oneWorkspace "w1") hbound
  have hprinted : printed false "w1" = "w1" := printed_of_notMem (by decide) false
  have hline : "Found workspace " ++ printed false "w1" ++ "\n" = "Found workspace w1\n" := by
    rw [hprinted]
    decide
  exact ⟨hinit, hstatus, hout.trans hline, (hsame _ hstatus rfl).1.trans hline⟩

/-- The identifier of a new workspace loses its escape sequences where it is not printed on a
terminal. -/
theorem init_of_red_workspace :
    Response.Returns (.ofJson 201 (.object [("id", .text "w\x1b[31m")]))
        ⟨"w\x1b[31m", none, none, none, none⟩ ∧
      (registering "w\x1b[31m").Calls ["init", "q\"/../"] {} .usual ""
        (.init (some "q\"/../") none) ∧
      ((registering "w\x1b[31m").run ["init", "q\"/../"]).out = "Found workspace w\n" := by
  have hreturns := returns_registering "w\x1b[31m"
  have hinit := calls_init "w\x1b[31m"
  obtain ⟨request, hrequest⟩ := exists_request_registering "w\x1b[31m"
  refine ⟨hreturns, hinit, (out_eq_of_found (hinit.shows_init hrequest rfl hreturns)).trans ?_⟩
  decide

end Situation

end WorkspaceWatch
