/-
**URLs below a base URL.**

The URL of a request is put together as a text: the path of the base URL, then that of the request.
What comes of it is said here part by part, for URLs with a scheme, whose paths are always in their
final form, and for paths on their own, which are taken as they are written.

Main definitions:

* `WorkspaceWatch.Url.IsFinal` — a path in its final form: escaped, and without dot segments;
* `WorkspaceWatch.Url.directory` — the path of a URL with a slash at its end.

Main results:

* `WorkspaceWatch.Url.ofPartsHost_eq_ok_iff` — what is checked of the parts of a URL, and what
  becomes of them;
* `WorkspaceWatch.Url.IsFinal.percentEncode_normalizePath` — a path in its final form stays;
* `WorkspaceWatch.Client.base_eq_ok` — the base URL with a slash at the end;
* `WorkspaceWatch.Client.address_path` — **the path of a request is that of the base URL with its
  own behind it, brought into its final form**.
-/

import Mathlib.Data.List.TakeWhile
import WorkspaceWatch.Daemon.Exchange
import WorkspaceWatch.Proofs.Schema
import WorkspaceWatch.Proofs.Segments

set_option autoImplicit false

namespace WorkspaceWatch

namespace Url

/-! ### The characters of a path -/

/-- A fact about the ASCII characters, checked for each of them. -/
theorem forall_ascii {P : Char → Prop} (h : ∀ n : Fin 128, P (.ofNat n)) {c : Char}
    (hc : c.toNat < 128) : P c := by
  have hp := h ⟨c.toNat, hc⟩
  rwa [show Char.ofNat c.toNat = c from Char.ofNat_toNat c] at hp

theorem toNat_lt_of_isUnreserved {c : Char} (h : isUnreserved c = true) : c.toNat < 128 := by
  have hclasses : (c.isUpper || c.isLower || c.isDigit || c == '-' || c == '.' || c == '_' ||
      c == '~') = true := h
  have hbound : ∀ d : Char, d.toNat < 128 → c.val ≤ d.val → c.toNat < 128 := by
    intro d hd hle
    exact Nat.lt_of_le_of_lt (UInt32.le_iff_toNat_le.1 hle) hd
  simp only [Bool.or_eq_true, beq_iff_eq] at hclasses
  rcases hclasses with (((((hupper | hlower) | hdigit) | rfl) | rfl) | rfl) | rfl
  · exact hbound 'Z' (by decide) (of_decide_eq_true hupper).2
  · exact hbound 'z' (by decide) (of_decide_eq_true (Bool.and_eq_true_iff.1 hlower).2)
  · exact hbound '9' (by decide) (of_decide_eq_true (Bool.and_eq_true_iff.1 hdigit).2)
  all_goals decide

/-- A fact about the characters that never need an escape, checked for each of them. -/
theorem forall_isUnreserved {P : Char → Prop}
    (h : ∀ n : Fin 128, isUnreserved (.ofNat n) = true → P (.ofNat n)) {c : Char}
    (hc : isUnreserved c = true) : P c :=
  forall_ascii (P := fun c => isUnreserved c = true → P c) h (toNat_lt_of_isUnreserved hc) hc

theorem toNat_lt_of_hexDigit {c : Char} (h : (hexDigitValue? c).isSome = true) : c.toNat < 128 := by
  unfold hexDigitValue? at h
  split at h
  · next hc => exact Nat.lt_of_le_of_lt (UInt32.le_iff_toNat_le.1 hc.2) (by decide)
  · split at h
    · next hc => exact Nat.lt_of_le_of_lt (UInt32.le_iff_toNat_le.1 hc.2) (by decide)
    · split at h
      · next hc => exact Nat.lt_of_le_of_lt (UInt32.le_iff_toNat_le.1 hc.2) (by decide)
      · cases h

/-- Whether the characters of escapes are kept is a question about ASCII characters. -/
theorem keepsEscapes_of_ascii {keep : Char → Bool} (hpercent : keep '%' = true)
    (hascii : ∀ n : Fin 128, (hexDigitValue? (.ofNat n)).isSome = true → keep (.ofNat n) = true) :
    KeepsEscapes keep := by
  refine ⟨hpercent, ?_⟩
  intro c h
  exact forall_ascii (P := fun c => (hexDigitValue? c).isSome = true → keep c = true) hascii
    (toNat_lt_of_hexDigit h) h

theorem keepsEscapes_keepsPath : KeepsEscapes keepsPath :=
  keepsEscapes_of_ascii (by decide) (by decide)

/-! ### Paths in their final form -/

/-- A path in its final form: all characters are such as a path keeps, and no segment is a dot
segment. -/
structure IsFinal (path : List Char) : Prop where
  /-- The characters are kept. -/
  keeps : ∀ c ∈ path, keepsPath c = true
  /-- There are no dot segments. -/
  noDots : ∀ s ∈ splitAtMark '/' path, isDots s = false

theorem splitAtMark_percentEncode_keepsPath (cs : List Char) :
    splitAtMark '/' (percentEncode keepsPath cs) =
      (splitAtMark '/' cs).map (percentEncode keepsPath) :=
  splitAtMark_percentEncode (by decide) (by decide) cs

theorem splitAtMark_normalizePath {path : List Char}
    (hne : removeDots [] (splitAtMark '/' path) ≠ []) :
    splitAtMark '/' (normalizePath path) = removeDots [] (splitAtMark '/' path) := by
  refine splitAtMark_joinWithMark '/' _ hne ?_
  intro s hs
  rcases mem_of_mem_removeDots hs with h | h
  · cases h
  · exact notMem_of_mem_splitAtMark h

/-- The segments of a path are put together as they are. -/
theorem normalizePath_of_noDots {path : List Char}
    (h : ∀ s ∈ splitAtMark '/' path, isDots s = false) : normalizePath path = path := by
  rw [normalizePath, removeDots_of_not_isDots h, List.reverse_nil, List.nil_append,
    joinWithMark_splitAtMark]

/-- **A path in its final form stays.** -/
theorem IsFinal.percentEncode_normalizePath {path : List Char} (h : IsFinal path) :
    percentEncode keepsPath (normalizePath path) = path := by
  rw [normalizePath_of_noDots h.noDots, percentEncode_of_keep h.keeps]

/-- Escaping makes no dot segment and spoils none. -/
theorem isDots_percentEncode (s : List Char) :
    isDots (percentEncode keepsPath s) = isDots s := by
  have hplain : ∀ s : List Char, isDots s = true → percentEncode keepsPath s = s := by
    intro s hs
    simp only [isDots, Bool.or_eq_true, decide_eq_true_eq] at hs
    rcases hs with rfl | rfl <;> rfl
  rw [Bool.eq_iff_iff]
  constructor
  · intro h
    have hpercent : '%' ∉ percentEncode keepsPath s := by
      simp only [isDots, Bool.or_eq_true, decide_eq_true_eq] at h
      rcases h with h | h <;> rw [h] <;> decide
    rwa [percentEncode_eq_self hpercent] at h
  · intro h
    rwa [hplain s h]

/-- **Every path is brought into a final form.** -/
theorem isFinal_percentEncode_normalizePath (path : List Char) :
    IsFinal (percentEncode keepsPath (normalizePath path)) := by
  refine ⟨fun c hc => keep_of_mem_percentEncode keepsEscapes_keepsPath hc, ?_⟩
  intro s hs
  rw [splitAtMark_percentEncode_keepsPath, List.mem_map] at hs
  obtain ⟨raw, hraw, rfl⟩ := hs
  rw [isDots_percentEncode]
  by_cases hnil : removeDots [] (splitAtMark '/' path) = []
  · rw [normalizePath, hnil] at hraw
    rw [List.mem_singleton.1 hraw]
    rfl
  · rw [splitAtMark_normalizePath hnil] at hraw
    exact isDots_of_mem_removeDots (by simp) hraw

/-- The segments that are left of a path whose characters are all kept. -/
theorem splitAtMark_percentEncode_normalizePath {path : List Char}
    (hkeep : ∀ c ∈ path, keepsPath c = true) (hne : removeDots [] (splitAtMark '/' path) ≠ []) :
    splitAtMark '/' (percentEncode keepsPath (normalizePath path)) =
      removeDots [] (splitAtMark '/' path) := by
  rw [splitAtMark_percentEncode_keepsPath, splitAtMark_normalizePath hne]
  refine (List.map_congr_left ?_).trans (List.map_id _)
  intro s hs
  refine percentEncode_of_keep ?_
  intro c hc
  rcases mem_of_mem_removeDots hs with h | h
  · cases h
  · exact hkeep c (mem_of_mem_splitAtMark h hc)

/-- A slash at the end makes no dot segment. -/
theorem noDots_append_slash {path : List Char} (h : ∀ s ∈ splitAtMark '/' path, isDots s = false) :
    ∀ s ∈ splitAtMark '/' (path ++ ['/']), isDots s = false := by
  intro s hs
  rw [splitAtMark_append, List.mem_append] at hs
  rcases hs with hs | hs
  · exact h s hs
  · rw [List.mem_singleton.1 hs]
    rfl

/-- A slash at the end leaves a path in its final form. -/
theorem IsFinal.append_slash {path : List Char} (h : IsFinal path) : IsFinal (path ++ ['/']) := by
  refine ⟨?_, noDots_append_slash h.noDots⟩
  intro c hc
  rcases List.mem_append.1 hc with hc | hc
  · exact h.keeps c hc
  · rw [List.mem_singleton.1 hc]
    decide

/-! ### URLs from their parts -/

/-- What is checked of the parts of a URL, and what becomes of them. -/
theorem ofPartsHost_eq_ok_iff (p : Parts) (userInfo host port : List Char) (u : Url) :
    ofPartsHost p userInfo host port = .ok u ↔
      ∃ host' port', hostOf host = .ok host' ∧ portOf (.ofList p.scheme) port = .ok port' ∧
        pathFault? (!p.scheme.isEmpty)
          (!(percentEncode keepsUserInfo userInfo).isEmpty || host' != "" || port'.isSome)
          p.path = none ∧
        u = {
          scheme := .ofList (p.scheme.map Char.toLower)
          userInfo := .ofList (percentEncode keepsUserInfo userInfo)
          host := host', port := port'
          path := percentEncode keepsPath
            (if !p.scheme.isEmpty ||
                (!(percentEncode keepsUserInfo userInfo).isEmpty || host' != "" || port'.isSome)
              then normalizePath p.path else p.path)
          query := p.query.map (percentEncode keepsQuery)
          fragment := p.fragment.map (percentEncode keepsFragment) } := by
  unfold ofPartsHost
  cases hostOf host with
  | error e => simp [bind, Except.bind]
  | ok host' =>
      cases portOf (.ofList p.scheme) port with
      | error e => simp [bind, Except.bind]
      | ok port' =>
          simp only [bind, Except.bind, pure, Except.pure, throw, throwThe, MonadExceptOf.throw]
          cases hfault : pathFault? (!p.scheme.isEmpty)
            (!(percentEncode keepsUserInfo userInfo).isEmpty || host' != "" || port'.isSome)
            p.path with
          | some e => simp [hfault]
          | none =>
              constructor
              · intro h
                exact ⟨host', port', rfl, rfl, hfault, (Except.ok.inj h).symm⟩
              · rintro ⟨host'', port'', hhost, hport, -, rfl⟩
                cases hhost
                cases hport
                rfl

/-- The parts of a URL with a scheme, but for its host. -/
theorem ofParts_eq_ok {p : Parts} {u : Url} (h : ofParts p = .ok u) :
    u.scheme = .ofList (p.scheme.map Char.toLower) ∧
      (u.scheme ≠ "" → u.path = percentEncode keepsPath (normalizePath p.path)) ∧
      u.query = p.query.map (percentEncode keepsQuery) := by
  obtain ⟨host, port, -, -, -, rfl⟩ := (ofPartsHost_eq_ok_iff p _ _ _ u).1 h
  refine ⟨rfl, ?_, rfl⟩
  intro hscheme
  have hne : p.scheme ≠ [] := by
    rintro hnil
    simp [hnil] at hscheme
  simp [hne]

/-- A path on its own is taken as it is written. -/
theorem ofParts_relative_eq_ok {path : List Char} {query fragment : Option (List Char)} {u : Url}
    (h : ofParts ⟨[], [], path, query, fragment⟩ = .ok u) :
    u.path = percentEncode keepsPath path ∧ u.query = query.map (percentEncode keepsQuery) := by
  obtain ⟨host, port, hhost, hport, -, rfl⟩ := (ofPartsHost_eq_ok_iff _ [] [] [] u).1 h
  cases hhost
  cases hport
  exact ⟨rfl, rfl⟩

/-! ### A text on its own, and with another path -/

theorem parse_eq_ok {s : String} {u : Url} (h : parse s = .ok u) :
    ofParts (Parts.ofText s.toList) = .ok u := by
  unfold parse at h
  split at h
  · cases h
  · split at h
    · cases h
    · exact h

/-- Whether a character ends a path. -/
def endsPath (c : Char) : Bool := c == '?' || c == '#'

theorem endsPath_of_keepsPath {c : Char} (h : keepsPath c = true) : endsPath c = false := by
  cases he : endsPath c with
  | false => rfl
  | true =>
      simp only [endsPath, Bool.or_eq_true, beq_iff_eq] at he
      rcases he with rfl | rfl <;> revert h <;> decide

/-- What is sent of a path that is written as a text: all that comes before the first mark that
ends it, escaped. -/
def sentPath (cs : List Char) : List Char :=
  percentEncode keepsPath (cs.takeWhile fun c => !endsPath c)

theorem sentPath_cons_of_keep {c : Char} (h : keepsPath c = true) (cs : List Char) :
    sentPath (c :: cs) = c :: sentPath cs := by
  rw [sentPath, List.takeWhile_cons_of_pos (by simp [endsPath_of_keepsPath h]),
    percentEncode_cons_of_keep h, sentPath]

theorem sentPath_of_endsPath {cs : List Char} (h : ∀ c ∈ cs, endsPath c = false) :
    sentPath cs = percentEncode keepsPath cs := by
  rw [sentPath, List.takeWhile_eq_self_iff.2 (by simpa using h)]

theorem notMem_sentPath (cs : List Char) : '?' ∉ sentPath cs := by
  intro hmem
  have hkeep := keep_of_mem_percentEncode keepsEscapes_keepsPath hmem
  revert hkeep
  decide

/-- The segments that are sent stand for no more than the text. -/
theorem spelledLength_sentPath_le (cs : List Char) :
    spelledLength (splitAtMark '/' (sentPath cs)) ≤ cs.length + 1 := by
  have hle := (spelledLength_percentEncode keepsEscapes_keepsPath '/' (by decide) (by decide)
    (cs.takeWhile fun c => !endsPath c)).1
  have hprefix := (List.takeWhile_prefix (l := cs) fun c => !endsPath c).length_le
  exact Nat.le_trans hle (Nat.succ_le_succ hprefix)

/-- **If they stand for as much as the text, nothing was cut off and there are no escapes.** -/
theorem intact_of_spelledLength_sentPath {cs : List Char}
    (h : cs.length + 1 ≤ spelledLength (splitAtMark '/' (sentPath cs))) :
    (∀ c ∈ cs, endsPath c = false) ∧ ∀ s ∈ splitAtMark '/' cs, hasEscape s = false := by
  obtain ⟨hle, hlt⟩ := spelledLength_percentEncode keepsEscapes_keepsPath '/' (by decide)
    (by decide) (cs.takeWhile fun c => !endsPath c)
  have hprefix := List.takeWhile_prefix (l := cs) fun c => !endsPath c
  have hwhole : (cs.takeWhile fun c => !endsPath c) = cs :=
    hprefix.eq_of_length_le (Nat.le_of_succ_le_succ (Nat.le_trans h hle))
  rw [hwhole] at hlt
  constructor
  · intro c hc
    simpa using List.takeWhile_eq_self_iff.1 hwhole c hc
  · intro s hs
    rw [Bool.eq_false_iff]
    intro he
    have hless := hlt ⟨s, hs, he⟩
    rw [sentPath, hwhole] at h
    omega

/-- A text that begins with one slash has neither scheme nor authority. -/
theorem ofText_slash {c : Char} (hc : c ≠ '/') (cs : List Char) :
    cutScheme ('/' :: c :: cs) = ([], '/' :: c :: cs) ∧
      cutAuthority ('/' :: c :: cs) = ([], '/' :: c :: cs) := by
  constructor
  · unfold cutScheme
    split
    · next scheme rest heq =>
      have hslash : scheme = '/' :: (c :: cs).takeWhile fun c => !(c == ':') :=
        (congrArg Prod.fst heq).symm
      rw [hslash]
      rfl
    · rfl
  · unfold cutAuthority
    split
    · next heq => exact absurd (List.cons.inj (List.cons.inj heq).2).1 hc
    · rfl

/-- The path of a text that begins with one slash: all that comes before a mark that ends it. -/
theorem path_of_parse {c : Char} {cs : List Char} {s : String} {u : Url} (hc : c ≠ '/')
    (hs : s.toList = '/' :: c :: cs) (h : parse s = .ok u) :
    u.path = sentPath s.toList ∧
      ((∀ d ∈ s.toList, endsPath d = false) → u.query = none) := by
  have h := parse_eq_ok h
  obtain ⟨hscheme, hauthority⟩ := ofText_slash hc cs
  rw [← hs] at hscheme hauthority
  unfold Parts.ofText at h
  simp only [hscheme, hauthority] at h
  obtain ⟨hpath, hquery⟩ := ofParts_relative_eq_ok h
  refine ⟨hpath, ?_⟩
  intro hplain
  have hrest : (cutAt (fun c => c == '?' || c == '#') s.toList).2 = [] := by
    rw [cutAt, List.dropWhile_eq_nil_iff]
    intro d hd
    simpa [endsPath] using hplain d hd
  rw [hquery, hrest]
  rfl

/-- A text is cut where characters of a class begin. -/
theorem cutAt_append {p : Char → Bool} {cs rest : List Char} (h : ∀ c ∈ cs, p c = false)
    (hrest : ∀ c ∈ rest.head?, p c = true) : cutAt p (cs ++ rest) = (cs, rest) := by
  have hkeep : ∀ c ∈ cs, (!p c) = true := by
    intro c hc
    rw [h c hc]
    rfl
  rw [cutAt, List.takeWhile_append_of_pos hkeep, List.dropWhile_append_of_pos hkeep]
  cases rest with
  | nil => simp
  | cons c rest =>
      have hc : p c = true := hrest c rfl
      simp [hc]

theorem eq_of_mem_head?_marked {mark : Char} {part? : Option (List Char)} {c : Char}
    (hc : c ∈ (marked mark part?).head?) : c = mark := by
  cases part? with
  | none => cases hc
  | some cs => exact (Option.some.inj hc).symm

/-- A path and a query are cut where they were put together. -/
theorem cutTarget_append_marked {path : List Char} (h : '?' ∉ path) (query : Option (List Char)) :
    cutTarget (path ++ marked '?' query) = (path, query) := by
  have hcut : cutAt (· == '?') (path ++ marked '?' query) = (path, marked '?' query) := by
    refine cutAt_append ?_ fun c hc => ?_
    · intro c hc
      rw [beq_eq_false_iff_ne]
      exact fun heq => h (heq ▸ hc)
    · rw [eq_of_mem_head?_marked hc]
      rfl
  rw [cutTarget, hcut]
  cases query <;> rfl

/-- **A URL with another target has that path, in its final form.** -/
theorem withTarget_eq_ok {u v : Url} (hscheme : u.scheme ≠ "") {path : List Char} (hpath : '?' ∉ path)
    {query : Option (List Char)} (h : u.withTarget (path ++ marked '?' query) = .ok v) :
    v.scheme ≠ "" ∧ v.path = percentEncode keepsPath (normalizePath path) ∧
      v.query = query.map (percentEncode keepsQuery) := by
  rw [withTarget, cutTarget_append_marked hpath] at h
  simp only [rebuild] at h
  split at h
  · cases h
  · obtain ⟨hs, hp, hq⟩ := ofParts_eq_ok h
    have hne : v.scheme ≠ "" := by
      rw [hs]
      simpa [parts] using hscheme
    exact ⟨hne, hp hne, hq⟩

/-! ### Below a base URL -/

/-- The path of a URL with a slash at its end. -/
def directory (u : Url) : List Char :=
  if u.path.getLast? = some '/' then u.path else u.path ++ ['/']

theorem exists_directory_eq (u : Url) : ∃ before, u.directory = before ++ ['/'] := by
  unfold directory
  split
  · next h =>
    obtain ⟨before, hbefore⟩ := List.getLast?_eq_some_iff.1 h
    exact ⟨before, hbefore⟩
  · exact ⟨u.path, rfl⟩

theorem isFinal_path {s : String} {u : Url} (h : parse s = .ok u) (hscheme : u.scheme ≠ "") :
    IsFinal u.path := by
  obtain ⟨-, hpath, -⟩ := ofParts_eq_ok (parse_eq_ok h)
  rw [hpath hscheme]
  exact isFinal_percentEncode_normalizePath _

theorem IsFinal.directory {u : Url} (h : IsFinal u.path) : IsFinal u.directory := by
  unfold Url.directory
  split
  · exact h
  · exact h.append_slash

/-- A path in its final form can be put behind a directory. -/
theorem IsFinal.directory_append {u : Url} (h : IsFinal u.directory) {path : List Char}
    (hpath : IsFinal path) : IsFinal (u.directory ++ path) := by
  obtain ⟨before, hbefore⟩ := u.exists_directory_eq
  constructor
  · intro c hc
    rcases List.mem_append.1 hc with hc | hc
    · exact h.keeps c hc
    · exact hpath.keeps c hc
  · intro s hs
    rw [hbefore, List.append_assoc, List.singleton_append, splitAtMark_append,
      List.mem_append] at hs
    rcases hs with hs | hs
    · refine h.noDots s ?_
      rw [hbefore, splitAtMark_append]
      exact List.mem_append_left _ hs
    · exact hpath.noDots s hs

theorem IsFinal.notMem {path : List Char} (h : IsFinal path) : '?' ∉ path := by
  intro hmem
  have hkeep := h.keeps '?' hmem
  revert hkeep
  decide

end Url

namespace Client

/-- The base URL is taken as it is if its target ends with a slash, and else put together anew. -/
theorem base_cases {c : Client} {u b : Url} (hu : Url.parse c.baseUrl = .ok u)
    (h : c.base = .ok b) :
    u.target.getLast? = some '/' ∧ b = u ∨
      u.target.getLast? ≠ some '/' ∧ u.withTarget (u.target ++ ['/']) = .ok b := by
  unfold base at h
  rw [hu] at h
  simp only [bind, Except.bind, pure, Except.pure] at h
  split at h
  · next hlast =>
    cases h
    exact .inl ⟨hlast, rfl⟩
  · next hlast => exact .inr ⟨hlast, h⟩

/-- **The base URL is given a slash at the end of its path**, unless it has one. -/
theorem base_eq_ok {c : Client} {u b : Url} (hu : Url.parse c.baseUrl = .ok u)
    (hscheme : u.scheme ≠ "") (hquery : u.query = none) (h : c.base = .ok b) :
    b.scheme ≠ "" ∧ b.target = u.directory := by
  have hroot : u.path = [] → u.target = ['/'] := by
    intro hnil
    simp [Url.target, hnil, hquery, Url.marked]
  have htarget : u.path ≠ [] → u.target = u.path := by
    intro hne
    simp [Url.target, hne, hquery, Url.marked]
  rcases base_cases hu h with ⟨hlast, rfl⟩ | ⟨hlast, hw⟩
  · refine ⟨hscheme, ?_⟩
    by_cases hnil : b.path = []
    · rw [hroot hnil, Url.directory, hnil]
      rfl
    · rw [htarget hnil] at hlast ⊢
      rw [Url.directory, if_pos hlast]
  · have hne : u.path ≠ [] := by
      intro hnil
      exact hlast (by rw [hroot hnil]; rfl)
    rw [htarget hne] at hlast hw
    have hslash := (Url.isFinal_path hu hscheme).append_slash
    rw [show u.path ++ ['/'] = u.path ++ ['/'] ++ Url.marked '?' none by simp [Url.marked]] at hw
    obtain ⟨hs, hpath, hq⟩ := Url.withTarget_eq_ok hscheme hslash.notMem hw
    rw [hslash.percentEncode_normalizePath] at hpath
    refine ⟨hs, ?_⟩
    rw [Url.directory, if_neg hlast]
    simp [Url.target, hpath, hq, Url.marked]

/-- The URL of an order is put together in steps, each of which may fail. -/
theorem address_eq_ok {c : Client} {o : Order} {url : Url} (h : c.address o = .ok url) :
    ∃ b own w, c.base = .ok b ∧ Url.parse o.path = .ok own ∧
      b.withTarget (b.target ++ own.target.dropWhile (· == '/')) = .ok w ∧
      (o.query? = none → url = w) ∧
        ∀ query, o.query? = some query → w.withQuery query = .ok url := by
  obtain ⟨b, hb, h⟩ := (bind_eq_ok_iff _ _ _).1 h
  obtain ⟨own, hp, h⟩ := (bind_eq_ok_iff _ _ _).1 h
  obtain ⟨w, hw, h⟩ := (bind_eq_ok_iff _ _ _).1 h
  refine ⟨b, own, w, hb, hp, hw, ?_, ?_⟩
  · intro hq
    rw [hq] at h
    exact (Except.ok.inj h).symm
  · intro query hq
    rwa [hq] at h

/-- **The path of a request is that of the base URL with its own behind it**, brought into its final
form.  If no mark ends its own path, the URL has no query. -/
theorem address_path {c : Client} {u url : Url} (hu : Url.parse c.baseUrl = .ok u)
    (hscheme : u.scheme ≠ "") (hquery : u.query = none) {o : Order} (ho : o.query? = none)
    {d : Char} {ds : List Char} (hd : d ≠ '/' ∧ Url.keepsPath d = true)
    (hpath : o.path.toList = '/' :: d :: ds) (h : c.address o = .ok url) :
    url.path = percentEncode Url.keepsPath
        (Url.normalizePath (u.directory ++ Url.sentPath (d :: ds))) ∧
      ((∀ x ∈ d :: ds, Url.endsPath x = false) → url.query = none) := by
  have hfinal := (Url.isFinal_path hu hscheme).directory
  obtain ⟨b, own, w, hb, hp, hw, hurl, -⟩ := address_eq_ok h
  obtain ⟨hbscheme, hbtarget⟩ := base_eq_ok hu hscheme hquery hb
  obtain ⟨hownpath, hownquery⟩ := Url.path_of_parse hd.1 hpath hp
  -- the slash in front of the own path is gone; that of the base stands in for it
  have htarget : own.target.dropWhile (· == '/') =
      Url.sentPath (d :: ds) ++ Url.marked '?' own.query := by
    rw [Url.target, hownpath, hpath, Url.sentPath_cons_of_keep (by decide),
      Url.sentPath_cons_of_keep hd.2]
    simp [hd.1]
  have hmark : '?' ∉ u.directory ++ Url.sentPath (d :: ds) := by
    simp [hfinal.notMem, Url.notMem_sentPath]
  rw [hbtarget, htarget, ← List.append_assoc] at hw
  obtain ⟨-, hurlpath, hurlquery⟩ := Url.withTarget_eq_ok hbscheme hmark hw
  rw [hurl ho]
  refine ⟨hurlpath, ?_⟩
  intro hplain
  rw [hurlquery, hownquery ?_]
  · rfl
  · rw [hpath]
    intro x hx
    rcases List.mem_cons.1 hx with rfl | hx
    · decide
    · exact hplain x hx

end Client

end WorkspaceWatch
