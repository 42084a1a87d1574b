/-
**Base URLs as they are written.**

A base URL is written as a scheme, an authority and a path.  With a slash behind it, it is read as
the same URL with a slash behind its path, or fails for the same reason.  Whenever it is given
another path, its authority is read again.  It comes back as it is sent then, unless its host is
misread: then it does not come back at all.

Main definitions:

* `WorkspaceWatch.BaseText` — the texts that a base URL is written as;
* `WorkspaceWatch.BaseText.IsNormal` — the URL that such a text stands for, as it is sent;
* `WorkspaceWatch.Url.IsBase` — the URLs that such texts are read as.

Main results:

* `WorkspaceWatch.BaseText.parse_slashed` — **a slash is put behind the path, and nothing else
  changes**;
* `WorkspaceWatch.BaseText.isBase`, `WorkspaceWatch.BaseText.isNormal_normal` — what a base text is
  read as, and that it is the URL that the text stands for once it came back;
* `WorkspaceWatch.Url.IsBase.withTarget_eq` — **a base URL that is given a path comes back with it**;
* `WorkspaceWatch.Url.IsBase.withTarget_of_isMisread` — one with a misread host does not.
-/

import Mathlib.Data.Bool.AllAny
import WorkspaceWatch.Proofs.Rereading

set_option autoImplicit false

namespace WorkspaceWatch

/-! ### Base URLs as they are written -/

/-- A text that a base URL is written as: a scheme of the web, an authority, and a path without dot
segments that does not end with a slash. -/
structure BaseText where
  /-- The scheme, in letters of any case. -/
  scheme : List Char
  /-- User information, host and port. -/
  authority : List Char
  /-- The path; it may be empty. -/
  path : List Char
  /-- The scheme is one of the web. -/
  isHttp : scheme.map Char.toLower = "http".toList ∨ scheme.map Char.toLower = "https".toList
  /-- There is an authority. -/
  hasAuthority : authority ≠ []
  /-- It ends where the path begins. -/
  authorityEnds : ∀ c ∈ authority, c ≠ '/' ∧ c ≠ '?' ∧ c ≠ '#'
  /-- The path begins with a slash. -/
  pathBegins : ∀ c ∈ path.head?, c = '/'
  /-- There is nothing behind it. -/
  pathEnds : ∀ c ∈ path, c ≠ '?' ∧ c ≠ '#'
  /-- It does not end with a slash. -/
  isOpen : path.getLast? ≠ some '/'
  /-- It has no dot segments. -/
  noDots : ∀ s ∈ splitAtMark '/' path, isDots s = false
  /-- The whole text is not too long. -/
  isShort : scheme.length + authority.length + path.length + 3 ≤ 5000

namespace BaseText

/-- The characters of the text. -/
def chars (t : BaseText) : List Char :=
  t.scheme ++ ':' :: '/' :: '/' :: (t.authority ++ t.path)

/-- The text. -/
def url (t : BaseText) : String := .ofList t.chars

/-- The text with a slash at its end. -/
def slashed (t : BaseText) : String := t.url ++ "/"

/-- The raw parts of the text, with some path. -/
def parts (t : BaseText) (path : List Char) : Url.Parts :=
  ⟨t.scheme, t.authority, path, none, none⟩

/-- The URL that the text stands for, with all its parts as they are sent: the scheme and the host
in small letters (but an address in brackets as it is), the port a number that is not the scheme's
own, and everything else escaped. -/
structure IsNormal (t : BaseText) (u : Url) : Prop where
  /-- The scheme has small letters. -/
  scheme : u.scheme.toList = t.scheme.map Char.toLower
  /-- The user information is escaped. -/
  userInfo : u.userInfo.toList = percentEncode Url.keepsUserInfo (Url.cutHost t.authority).1
  /-- The host is that of the authority, in small letters. -/
  host : ∃ host, Url.hostOf (Url.cutHost t.authority).2.1 = .ok host ∧ u.host = Url.normalHost host
  /-- The port is that of the authority, unless it is the scheme's own. -/
  port : ∃ port, Url.portOf (.ofList t.scheme) (Url.cutHost t.authority).2.2 = .ok port ∧
    u.port = Url.normalPort u.scheme port
  /-- The path is escaped. -/
  path : u.path = percentEncode Url.keepsPath t.path
  /-- There is no query. -/
  query : u.query = none
  /-- There is no fragment. -/
  fragment : u.fragment = none

end BaseText

namespace Url

/-! ### Texts read with a slash behind them -/

/-- A URL with a slash behind its path. -/
def withSlash (u : Url) : Url := { u with path := u.path ++ ['/'] }

/-- With a slash behind it, a path that begins with a slash still does. -/
theorem head?_append_slash {path : List Char} (h : ∀ c ∈ path.head?, c = '/') (cs : List Char) :
    ∀ c ∈ (path ++ '/' :: cs).head?, c = '/' := by
  intro c hc
  cases path with
  | nil => exact (Option.some.inj hc).symm
  | cons d rest => exact h c hc

/-- A text with scheme, authority and path has these raw parts. -/
theorem ofText_absolute {scheme authority path : List Char}
    (hscheme : ∀ c ∈ scheme, c.isAlpha = true)
    (hauthority : ∀ c ∈ authority, c ≠ '/' ∧ c ≠ '?' ∧ c ≠ '#')
    (hbegins : ∀ c ∈ path.head?, c = '/') (hends : ∀ c ∈ path, c ≠ '?' ∧ c ≠ '#') :
    Parts.ofText (scheme ++ ':' :: '/' :: '/' :: (authority ++ path)) =
      ⟨scheme, authority, path, none, none⟩ := by
  have hcolon : ∀ c ∈ scheme, (c == ':') = false := by
    intro c hc
    rw [beq_eq_false_iff_ne]
    rintro rfl
    exact absurd (hscheme _ hc) (by decide)
  have hisScheme : isScheme scheme = true := by
    cases scheme with
    | nil => rfl
    | cons c rest =>
        rw [isScheme, hscheme c List.mem_cons_self, Bool.true_and, List.all_eq_true]
        intro d hd
        simp [Char.isAlphanum, hscheme d (List.mem_cons_of_mem c hd)]
  have hcutScheme : cutScheme (scheme ++ ':' :: '/' :: '/' :: (authority ++ path)) =
      (scheme, '/' :: '/' :: (authority ++ path)) := by
    rw [cutScheme, cutAt_append hcolon (by simp)]
    simp only [hisScheme, if_true]
  have hcutAuthority : cutAuthority ('/' :: '/' :: (authority ++ path)) = (authority, path) := by
    rw [cutAuthority, cutAt_append]
    · intro c hc
      simp [hauthority c hc]
    · intro c hc
      rw [hbegins c hc]
      rfl
  have hcutPath : cutAt (fun c => c == '?' || c == '#') path = (path, []) := by
    have hcut : cutAt (fun c => c == '?' || c == '#') (path ++ []) = (path, []) :=
      cutAt_append (fun c hc => by simp [hends c hc]) (by simp)
    rwa [List.append_nil] at hcut
  simp only [Parts.ofText, hcutScheme, hcutAuthority, hcutPath]

/-- A slash at the end of a text is no control character. -/
theorem firstControl?_append_slash (position : Nat) (cs : List Char) :
    firstControl? position (cs ++ ['/']) = firstControl? position cs := by
  induction cs generalizing position with
  | nil => rfl
  | cons c cs ih => simp only [List.cons_append, firstControl?, ih]

/-- Escaping makes no mark at the end. -/
theorem getLast?_percentEncode_ne {keep : Char → Bool} {mark : Char}
    (hplain : mark ≠ '%' ∧ hexDigitValue? mark = none) {cs : List Char}
    (h : cs.getLast? ≠ some mark) : (percentEncode keep cs).getLast? ≠ some mark := by
  rcases List.eq_nil_or_concat cs with rfl | ⟨before, c, rfl⟩
  · exact h
  · have hc : c ≠ mark := by
      rintro rfl
      exact h (by simp)
    have hone : percentEncode keep [c] = if keep c then [c] else percentChar c := by
      rw [percentEncode_cons]
      exact List.append_nil _
    have hne : percentEncode keep [c] ≠ [] := by
      rw [hone]
      obtain ⟨x, ds, hx⟩ := exists_percentChar_eq_cons c
      split <;> simp [hx]
    rw [List.concat_eq_append, percentEncode_append, List.getLast?_append_of_ne_nil _ hne]
    intro hlast
    have hmem := List.mem_of_getLast? hlast
    rw [hone] at hmem
    split at hmem
    · exact hc (List.mem_singleton.1 hmem).symm
    · rcases mem_percentChar hmem with heq | hdigit
      · exact hplain.1 heq
      · rw [hplain.2] at hdigit
        cases hdigit

end Url

namespace BaseText

open Url

variable (t : BaseText)

theorem isAlpha_of_mem_scheme {c : Char} (hc : c ∈ t.scheme) : c.isAlpha = true := by
  have hletter : ∀ c : Char, c.toLower ∈ "https".toList → c.isAlpha = true :=
    toLower_induction (P := fun c d => d ∈ "https".toList → c.isAlpha = true) (by decide)
      fun c _ hmem => by
        have hall : ∀ d ∈ "https".toList, d.isAlpha = true := List.all_iff_forall_prop.1 (by decide)
        exact hall c hmem
  have hmem := List.mem_map_of_mem (f := Char.toLower) hc
  apply hletter
  rcases t.isHttp with hhttp | hhttps
  · rw [hhttp] at hmem
    revert hmem
    generalize c.toLower = d
    have hall : ∀ d ∈ "http".toList, d ∈ "https".toList := List.all_iff_forall_prop.1 (by decide)
    exact hall d
  · rwa [hhttps] at hmem

theorem scheme_ne_nil : t.scheme ≠ [] := by
  intro hnil
  rcases t.isHttp with h | h <;> rw [hnil] at h <;> cases h

theorem length_chars : t.chars.length ≤ 5000 := by
  have hshort := t.isShort
  simp only [chars, List.length_append, List.length_cons]
  omega

theorem toList_slashed : t.slashed.toList = t.chars ++ ['/'] := by
  rw [slashed, url, String.toList_append, String.toList_ofList]
  rfl

theorem parse_url : parse t.url =
    match firstControl? 0 t.chars with
    | some (c, position) => .error (.control c position)
    | none => ofParts (t.parts t.path) := by
  have hlong : ¬t.url.length > maxLength := by
    have hlength := t.length_chars
    rw [url, String.length_ofList, maxLength]
    omega
  have hparts : Parts.ofText t.chars = t.parts t.path :=
    ofText_absolute (fun _ => t.isAlpha_of_mem_scheme) t.authorityEnds t.pathBegins t.pathEnds
  have htext : t.url.toList = t.chars := String.toList_ofList
  rw [parse, if_neg hlong, htext]
  cases firstControl? 0 t.chars with
  | some found => rfl
  | none => exact congrArg ofParts hparts

theorem ofText_slashed : Parts.ofText t.slashed.toList = t.parts (t.path ++ ['/']) := by
  have hends : ∀ c ∈ t.path ++ ['/'], c ≠ '?' ∧ c ≠ '#' := by
    intro c hc
    rcases List.mem_append.1 hc with hc | hc
    · exact t.pathEnds c hc
    · rw [List.mem_singleton.1 hc]
      decide
  have htext := ofText_absolute (fun _ => t.isAlpha_of_mem_scheme) t.authorityEnds
    (head?_append_slash t.pathBegins []) hends
  rw [toList_slashed]
  unfold chars parts
  simpa using htext

theorem ofParts_slashed :
    ofParts (t.parts (t.path ++ ['/'])) = (ofParts (t.parts t.path)).map withSlash := by
  rw [ofParts_eq_bind, ofParts_eq_bind]
  simp only [parts]
  cases readAuthority t.scheme t.authority with
  | error e => rfl
  | ok a =>
      simp only [Except.bind]
      rw [Parts.finish_eq_ok t.scheme_ne_nil (head?_append_slash t.pathBegins []),
        Parts.finish_eq_ok t.scheme_ne_nil t.pathBegins]
      simp only [Except.map, withSlash, normalizePath_of_noDots t.noDots,
        normalizePath_of_noDots (noDots_append_slash t.noDots), percentEncode_append]
      rfl

/-- **A slash is put behind the path, and nothing else changes.** -/
theorem parse_slashed : parse t.slashed = (parse t.url).map withSlash := by
  have hlong : ¬t.slashed.length > maxLength := by
    have hlength := t.length_chars
    rw [← String.length_toList, toList_slashed, List.length_append, List.length_singleton,
      maxLength]
    omega
  have hcontrol : firstControl? 0 t.slashed.toList = firstControl? 0 t.chars := by
    rw [toList_slashed, firstControl?_append_slash]
  rw [parse, if_neg hlong, hcontrol, ofText_slashed, ofParts_slashed, parse_url]
  cases firstControl? 0 t.chars <;> rfl

theorem ofParts_of_parse {u : Url} (h : parse t.url = .ok u) : ofParts (t.parts t.path) = .ok u := by
  rw [parse_url] at h
  split at h
  · cases h
  · exact h

/-- A base URL is made of its authority and the escaped path. -/
theorem exists_authority {u : Url} (h : parse t.url = .ok u) :
    ∃ a, readAuthority t.scheme t.authority = .ok a ∧
      u = ⟨.ofList (t.scheme.map Char.toLower), .ofList a.userInfo, a.host, a.port,
        percentEncode keepsPath t.path, none, none⟩ := by
  have hparts := t.ofParts_of_parse h
  rw [ofParts_eq_bind] at hparts
  simp only [parts] at hparts
  cases ha : readAuthority t.scheme t.authority with
  | error e =>
      rw [ha] at hparts
      cases hparts
  | ok a =>
      rw [ha] at hparts
      simp only [Except.bind] at hparts
      rw [Parts.finish_eq_ok t.scheme_ne_nil t.pathBegins] at hparts
      refine ⟨a, rfl, ?_⟩
      rw [← Except.ok.inj hparts, normalizePath_of_noDots t.noDots]
      rfl

/-- What it is read as is, once it came back, the URL that the text stands for. -/
theorem isNormal_normal {u : Url} (h : parse t.url = .ok u) : t.IsNormal u.normal := by
  obtain ⟨a, ha, rfl⟩ := t.exists_authority h
  obtain ⟨huser, hhost, hport⟩ := readAuthority_eq_ok ha
  exact {
    scheme := String.toList_ofList
    userInfo := String.toList_ofList.trans huser
    host := ⟨a.host, hhost, rfl⟩
    port := ⟨a.port, hport, rfl⟩
    path := rfl
    query := rfl
    fragment := rfl }

end BaseText

namespace Url

/-! ### What a base URL is read as -/

/-- A URL that a base text is read as. -/
structure IsBase (u : Url) : Prop where
  /-- It is spelled as its parts are kept. -/
  spelled : u.IsSpelled
  /-- The port can be read again. -/
  port : u.HasReadablePort
  /-- The scheme is one of the web. -/
  scheme : u.scheme = "http" ∨ u.scheme = "https"
  /-- The path begins with a slash. -/
  begins : ∀ c ∈ u.path.head?, c = '/'
  /-- It is in its final form. -/
  final : IsFinal u.path
  /-- It does not end with a slash. -/
  isOpen : u.path.getLast? ≠ some '/'
  /-- There is no query. -/
  query : u.query = none
  /-- There is no fragment. -/
  fragment : u.fragment = none
  /-- The authority is not too long. -/
  authority : u.authority.toList.length ≤ maxLength
  /-- Neither is the path, by far. -/
  path : u.path.length ≤ 60000

end Url

namespace BaseText

open Url

variable (t : BaseText)

theorem isBase {u : Url} (h : parse t.url = .ok u) : u.IsBase := by
  have hparts := t.ofParts_of_parse h
  have hlong := length_authority_le hparts
  have hshort := t.isShort
  have hspelled := isSpelled_of_ofParts hparts
  have hport := hasReadablePort_of_ofParts hparts
  have hscheme : u.scheme = "http" ∨ u.scheme = "https" := by
    have hlower : u.scheme = .ofList (t.scheme.map Char.toLower) := (ofParts_eq_ok hparts).1
    rw [hlower]
    rcases t.isHttp with hhttp | hhttps
    · rw [hhttp]
      exact .inl String.ofList_toList
    · rw [hhttps]
      exact .inr String.ofList_toList
  have hne : u.scheme ≠ "" := by
    rcases hscheme with hs | hs <;> rw [hs] <;> decide
  have hfinal := isFinal_path h hne
  obtain ⟨a, -, hu⟩ := t.exists_authority h
  have hpath : u.path = percentEncode keepsPath t.path := by rw [hu]
  refine ⟨hspelled, hport, hscheme, ?_, hfinal, ?_, by rw [hu], by rw [hu], ?_, ?_⟩
  · rw [hpath]
    intro c hc
    cases hp : t.path with
    | nil =>
        rw [hp] at hc
        cases hc
    | cons d rest =>
        obtain rfl : d = '/' := t.pathBegins d (by rw [hp]; rfl)
        rw [hp, percentEncode_cons_of_keep (by decide)] at hc
        exact (Option.some.inj hc).symm
  · rw [hpath]
    exact getLast?_percentEncode_ne (by decide) t.isOpen
  · refine Nat.le_trans hlong ?_
    simp only [parts, maxDigits, Idna.maxNameLength, maxLength]
    omega
  · rw [hpath]
    have hescaped := length_percentEncode_le keepsPath t.path
    omega

end BaseText

namespace Url

/-! ### Base URLs that are given a path -/

variable {u : Url} (hu : u.IsBase)
include hu

theorem IsBase.scheme_ne : u.scheme ≠ "" := by
  rcases hu.scheme with h | h <;> rw [h] <;> decide

theorem IsBase.directory_eq : u.directory = u.path ++ ['/'] := if_neg hu.isOpen

theorem IsBase.tooLong?_eq_none {path : List Char} {query : Option (List Char)}
    (hpath : path.length ≤ maxLength) (hquery : (query.getD []).length ≤ maxLength) :
    ({ u.parts with path, query } : Parts).tooLong? = none := by
  have hscheme : u.scheme.toList.length ≤ maxLength := by
    rcases hu.scheme with h | h <;> rw [h] <;> decide
  have hfragment : (u.fragment.getD []).length ≤ maxLength := by
    rw [hu.fragment]
    exact Nat.zero_le _
  exact Parts.tooLong?_eq_none hscheme hu.authority hpath hquery hfragment

/-- **A base URL that is given a path comes back with it.** -/
theorem IsBase.withTarget_eq (hhost : u.isMisread = false) {path : List Char}
    (hbegins : ∀ c ∈ path.head?, c = '/') (hfinal : IsFinal path) (hshort : path.length ≤ maxLength) :
    u.withTarget path = .ok { u.normal with path } := by
  have hsettled : u.IsSettled := ⟨hu.spelled, hhost, hu.port⟩
  have hcut : cutTarget path = (path, none) := by
    have hmarked := cutTarget_append_marked hfinal.notMem none
    rwa [marked, List.append_nil] at hmarked
  have hscheme : u.scheme.toList ≠ [] := by
    intro hnil
    exact hu.scheme_ne (String.toList_inj.1 hnil)
  have hlong : ({ u.parts with path, query := none } : Parts).tooLong? = none :=
    hu.tooLong?_eq_none hshort (Nat.zero_le _)
  simp only [withTarget, hcut, rebuild, hlong]
  rw [ofParts_eq_bind]
  simp only [parts, hsettled.readAuthority_eq, Except.bind]
  rw [Parts.finish_eq_ok hscheme hbegins]
  simp only [hfinal.percentEncode_normalizePath, hu.spelled.scheme, String.ofList_toList, normal,
    hu.query, hu.fragment]
  rfl

/-- **A base URL with a misread host is not given any path.** -/
theorem IsBase.withTarget_of_isMisread (hhost : u.isMisread = true) {target : List Char}
    (hshort : target.length ≤ maxLength) :
    u.withTarget target = .error (.address4 u.hostText) := by
  obtain ⟨hpath, hquery⟩ := length_cutTarget_le target
  have hlong := hu.tooLong?_eq_none (Nat.le_trans hpath hshort) (Nat.le_trans hquery hshort)
  rw [withTarget_eq_rebuild, hu.spelled.rebuild_of_isMisread hhost rfl rfl, hlong]
  rfl

end Url

end WorkspaceWatch
