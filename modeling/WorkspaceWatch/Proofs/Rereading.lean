/-
**URLs that are put together again and again.**

To get another path, a URL is taken apart and put together anew, and its authority is read once
more.  If that goes well once, then it goes well ever after and always gives the same: it does not
matter how often a URL was put together before.  Only a name whose ASCII form looks like an address
of four numbers can be read from a text, and from nothing that was made of it.

Main definitions:

* `WorkspaceWatch.Url.Authority`, `WorkspaceWatch.Url.readAuthority` — an authority as it is kept, and
  how it is read;
* `WorkspaceWatch.Url.IsSettled` — a URL whose authority is read again without a fault.

Main results:

* `WorkspaceWatch.Url.ofParts_eq_bind` — of a URL's parts, the authority is read apart from all
  others;
* `WorkspaceWatch.Url.IsSettled.readAuthority_normal` — **an authority that is read again
  without a fault is read as before**, however often that is done;
* `WorkspaceWatch.Url.length_authority_le` — how long an authority can get by its escapes;
* `WorkspaceWatch.Url.withTarget_congr` — URLs whose authorities are read alike are alike once they
  are given the same path.
-/

import WorkspaceWatch.Proofs.Authority

set_option autoImplicit false

namespace WorkspaceWatch

namespace Url

/-! ### The authority apart from the other parts -/

/-- An authority as it is kept. -/
structure Authority where
  /-- The user information, escaped. -/
  userInfo : List Char
  /-- The host. -/
  host : String
  /-- The port, unless it is the scheme's own. -/
  port : Option Int

/-- Whether anything is there. -/
def Authority.isPresent (a : Authority) : Bool :=
  !a.userInfo.isEmpty || a.host != "" || a.port.isSome

/-- An authority as it is read behind a scheme. -/
def readAuthority (scheme authority : List Char) : Except UrlError Authority := do
  let (userInfo, host, port) := cutHost authority
  let host ← hostOf host
  let port ← portOf (.ofList scheme) port
  return ⟨percentEncode keepsUserInfo userInfo, host, port⟩

/-- A URL from raw parts, once their authority was read. -/
def Parts.finish (p : Parts) (a : Authority) : Except UrlError Url :=
  match pathFault? (!p.scheme.isEmpty) a.isPresent p.path with
  | some e => .error e
  | none => .ok {
      scheme := .ofList (p.scheme.map Char.toLower)
      userInfo := .ofList a.userInfo
      host := a.host, port := a.port
      path := percentEncode keepsPath
        (if !p.scheme.isEmpty || a.isPresent then normalizePath p.path else p.path)
      query := p.query.map (percentEncode keepsQuery)
      fragment := p.fragment.map (percentEncode keepsFragment) }

/-- **Of a URL's parts, the authority is read apart from all others.** -/
theorem ofParts_eq_bind (p : Parts) :
    ofParts p = (readAuthority p.scheme p.authority).bind p.finish := by
  unfold ofParts ofPartsHost readAuthority Parts.finish Authority.isPresent
  generalize cutHost p.authority = cut
  obtain ⟨userInfo, host, port⟩ := cut
  cases hhost : hostOf host with
  | error e => simp [hhost, bind, Except.bind]
  | ok host' =>
      cases hport : portOf (.ofList p.scheme) port with
      | error e => simp [hhost, hport, bind, Except.bind]
      | ok port' =>
          cases hfault : pathFault? (!p.scheme.isEmpty)
            (!(percentEncode keepsUserInfo userInfo).isEmpty || host' != "" || port'.isSome)
            p.path with
          | some e =>
              simp [hhost, hport, hfault, bind, Except.bind, pure, Except.pure, throw, throwThe,
                MonadExceptOf.throw]
          | none => simp [hhost, hport, hfault, bind, Except.bind, pure, Except.pure]

/-- User information, host and port of an authority are read one by one. -/
theorem readAuthority_eq_ok {scheme authority : List Char} {a : Authority}
    (h : readAuthority scheme authority = .ok a) :
    a.userInfo = percentEncode keepsUserInfo (cutHost authority).1 ∧
      hostOf (cutHost authority).2.1 = .ok a.host ∧
      portOf (.ofList scheme) (cutHost authority).2.2 = .ok a.port := by
  unfold readAuthority at h
  generalize cutHost authority = cut at h
  obtain ⟨userInfo, host, port⟩ := cut
  obtain ⟨host', hhost, h⟩ := (bind_eq_ok_iff _ _ _).1 h
  obtain ⟨port', hport, h⟩ := (bind_eq_ok_iff _ _ _).1 h
  cases h
  exact ⟨rfl, hhost, hport⟩

/-- Behind an authority a path is empty or begins with a slash; then there is nothing wrong with
it. -/
theorem Parts.finish_eq_ok {p : Parts} (hscheme : p.scheme ≠ []) (hpath : ∀ c ∈ p.path.head?, c = '/')
    (a : Authority) :
    p.finish a = .ok {
      scheme := .ofList (p.scheme.map Char.toLower)
      userInfo := .ofList a.userInfo
      host := a.host, port := a.port
      path := percentEncode keepsPath (normalizePath p.path)
      query := p.query.map (percentEncode keepsQuery)
      fragment := p.fragment.map (percentEncode keepsFragment) } := by
  have hfault : pathFault? (!p.scheme.isEmpty) a.isPresent p.path = none := by
    cases hp : p.path with
    | nil => simp [pathFault?, hscheme]
    | cons c rest =>
        have hc : c = '/' := hpath c (by rw [hp]; rfl)
        simp [pathFault?, hscheme, hc]
  rw [Parts.finish, hfault]
  simp [hscheme]

/-! ### An authority read again -/

/-- The host of a URL as it comes back: a name in small letters, or an address as it is. -/
theorem IsSpelled.normal_host {u : Url} (hu : u.IsSpelled) :
    ((∀ c ∈ u.host.toList, keepsHost c = true) ∧
        u.normal.host.toList = u.host.toList.map Char.toLower) ∨
      u.normal.host = u.host := by
  rcases hu.hostText_eq with ⟨hname, -, hnormal⟩ | ⟨-, -, -, hnormal⟩
  · refine .inl ⟨hname, ?_⟩
    rw [show u.normal.host = normalHost u.host from rfl, hnormal, String.toList_ofList]
  · exact .inr hnormal

/-- Small letters do not spoil the spelling. -/
theorem IsSpelled.normal {u : Url} (hu : u.IsSpelled) : u.normal.IsSpelled := by
  refine ⟨hu.scheme, hu.userInfo, ?_⟩
  rcases hu.normal_host with ⟨hname, hlower⟩ | hsame
  · rw [hlower]
    exact .inl fun c hc => keepsHost_of_mem_map_toLower hname hc
  · rw [hsame]
    exact hu.host

/-- A host that is not misread is not misread with small letters either. -/
theorem IsSpelled.isMisread_normal {u : Url} (hu : u.IsSpelled) (h : u.isMisread = false) :
    u.normal.isMisread = false := by
  rcases hu.normal_host with ⟨hname, hlower⟩ | hsame
  · have htext := (hostText_of_keepsHost hname).2
    have htext' : u.normal.hostText = u.normal.host := by
      refine (hostText_of_keepsHost ?_).2
      rw [hlower]
      exact fun c hc => keepsHost_of_mem_map_toLower hname hc
    rw [isMisread, htext] at h
    rw [isMisread, htext', hlower, looksLikeAddress4_map_toLower]
    cases haddress : isAddress4 u.host.toList with
    | false =>
        rw [haddress, Bool.not_false, Bool.and_true] at h
        rw [h, Bool.false_and]
    | true =>
        rw [map_toLower_of_isAddress4 haddress, haddress, Bool.not_true, Bool.and_false]
  · have htext : u.normal.hostText = u.hostText := by rw [hostText, hostText, hsame]
    rw [isMisread, htext]
    exact h

/-- A URL whose authority is read again without a fault. -/
structure IsSettled (u : Url) : Prop where
  /-- Its parts are spelled as they are kept. -/
  spelled : u.IsSpelled
  /-- Its host is not misread. -/
  host : u.isMisread = false
  /-- Its port can be read. -/
  port : u.HasReadablePort

theorem IsSpelled.readAuthority_eq_bind {u : Url} (hu : u.IsSpelled) :
    readAuthority u.scheme.toList u.authority.toList =
      (hostOf u.hostText.toList).bind fun host =>
        (portOf u.scheme (u.portText?.getD [])).map fun port => ⟨u.userInfo.toList, host, port⟩ := by
  rw [readAuthority, hu.cutHost_authority]
  simp only [String.ofList_toList, percentEncode_of_keep hu.userInfo]
  rfl

/-- **A misread host is all that is seen of an authority.** -/
theorem IsSpelled.readAuthority_of_isMisread {u : Url} (hu : u.IsSpelled) (h : u.isMisread = true) :
    readAuthority u.scheme.toList u.authority.toList = .error (.address4 u.hostText) := by
  rw [hu.readAuthority_eq_bind, hu.hostOf_hostText, if_pos h]
  rfl

theorem IsSettled.readAuthority_eq {u : Url} (hu : u.IsSettled) :
    readAuthority u.scheme.toList u.authority.toList =
      .ok ⟨u.userInfo.toList, normalHost u.host, normalPort u.scheme u.port⟩ := by
  have hport := (portOf_portText_eq_ok_iff u _).2 ⟨hu.port, rfl⟩
  rw [hu.spelled.readAuthority_eq_bind, hu.spelled.hostOf_hostText, if_neg (by simp [hu.host]), hport]
  rfl

/-- What comes back of a settled URL is settled. -/
theorem IsSettled.normal {u : Url} (hu : u.IsSettled) : u.normal.IsSettled := by
  refine ⟨hu.spelled.normal, hu.spelled.isMisread_normal hu.host, ?_⟩
  intro n hn
  have hport : normalPort u.scheme u.port = some n := hn
  refine hu.port n ?_
  unfold normalPort at hport
  split at hport
  · cases hport
  · exact hport

/-- **An authority that is read again without a fault is read as before**, however often that is
done. -/
theorem IsSettled.readAuthority_normal {u : Url} (hu : u.IsSettled) :
    readAuthority u.normal.scheme.toList u.normal.authority.toList =
      readAuthority u.scheme.toList u.authority.toList := by
  have hhost : normalHost u.normal.host = normalHost u.host := normalHost_normalHost u.host
  have hport : normalPort u.normal.scheme u.normal.port = normalPort u.scheme u.port :=
    normalPort_normalPort u.scheme u.port
  rw [hu.normal.readAuthority_eq, hu.readAuthority_eq, hhost, hport]
  rfl

theorem wholeNumber?_of_portOf {scheme : String} {cs : List Char} {n : Int}
    (h : portOf scheme cs = .ok (some n)) : wholeNumber? (.ofList cs) = some n := by
  unfold portOf at h
  split at h
  · cases h
  · split at h
    · cases h
    · next m hread =>
      have hport := Except.ok.inj h
      split at hport
      · cases hport
      · rw [hread, Option.some.inj hport]

/-- A port that was read is readable. -/
theorem hasReadablePort_of_ofParts {p : Parts} {u : Url} (h : ofParts p = .ok u) :
    u.HasReadablePort := by
  rw [ofParts, cutHost_eq] at h
  obtain ⟨host, port, -, hport, -, rfl⟩ :=
    (ofPartsHost_eq_ok_iff p _ _ (cutPort (cutUser p.authority).2).2 u).1 h
  intro n hn
  have hsome : port = some n := hn
  rw [hsome] at hport
  exact wholeNumber?_toString_of_read (wholeNumber?_of_portOf hport)

/-! ### How long an authority is -/

theorem length_cutUser_le (authority : List Char) :
    (cutUser authority).1.length + (cutUser authority).2.length ≤ authority.length := by
  unfold cutUser
  split
  · have hlength := congrArg List.length
      (List.takeWhile_append_dropWhile (p := (· != '@')) (l := authority.reverse))
    simp only [List.length_append, List.length_reverse, List.length_drop] at hlength ⊢
    omega
  · simp

theorem length_cutPort_le (rest : List Char) : (cutPort rest).1.length ≤ rest.length := by
  unfold cutPort
  by_cases hbracket : (rest.head? == some '[' && rest.contains ']') = true
  · rw [if_pos hbracket]
    have hlength := (List.dropWhile_suffix (l := rest.reverse) (· != ']')).length_le
    simpa using hlength
  · rw [if_neg hbracket]
    exact (List.takeWhile_prefix _).length_le

theorem length_hostText_le {cs : List Char} {u : Url} (h : hostOf cs = .ok u.host) :
    u.hostText.toList.length ≤ 12 * cs.length + (Idna.maxNameLength + 2) := by
  have hhost : u.host.toList.length ≤ 12 * cs.length + Idna.maxNameLength := by
    unfold hostOf at h
    split at h
    · rw [← Except.ok.inj h]
      exact Nat.zero_le _
    · split at h
      · split at h
        · rw [← Except.ok.inj h, String.toList_ofList]
          omega
        · cases h
      · split at h
        · simp only at h
          split at h
          · rw [← Except.ok.inj h, String.toList_ofList, List.length_dropLast, List.length_drop]
            omega
          · cases h
        · split at h
          · have hescaped := length_percentEncode_le keepsHost (cs.map Char.toLower)
            rw [← Except.ok.inj h, String.toList_ofList]
            rw [List.length_map] at hescaped
            omega
          · split at h
            · next name hname =>
              have hshort := Idna.length_toAscii_le hname
              rw [← Except.ok.inj h, String.toList_ofList]
              omega
            · cases h
  unfold hostText
  split
  · simp only [String.toList_append, List.length_append]
    have hbrackets : "[".toList.length + "]".toList.length = 2 := rfl
    omega
  · omega

theorem HasReadablePort.length_portText_le {u : Url} (hu : u.HasReadablePort) :
    (marked ':' u.portText?).length ≤ maxDigits + 2 := by
  unfold portText?
  cases hn : u.port with
  | none => exact Nat.zero_le _
  | some n =>
      have hread := hu n hn
      rw [wholeNumber?_toString] at hread
      split at hread
      · cases hread
      · next hdigits =>
        simp only [Option.map_some, marked, List.length_cons, toList_toString_int, List.length_append]
        split
        · simp only [List.length_singleton]
          omega
        · simp only [List.length_nil]
          omega

theorem length_authority (u : Url) :
    u.authority.toList.length =
      (if u.userInfo = "" then 0 else u.userInfo.toList.length + 1) + u.hostText.toList.length +
        (marked ':' u.portText?).length := by
  rw [authority, String.toList_append, List.length_append, hostPort_toList, List.length_append,
    Nat.add_assoc]
  congr 1
  split
  · rfl
  · rw [String.toList_append, List.length_append]
    rfl

/-- **An authority grows by its escapes**, which are twelve characters for one, and by no more than
the ASCII form of a name, its marks and the digits of its port. -/
theorem length_authority_le {p : Parts} {u : Url} (h : ofParts p = .ok u) :
    u.authority.toList.length ≤
      12 * p.authority.length + (maxDigits + Idna.maxNameLength + 5) := by
  have hport := (hasReadablePort_of_ofParts h).length_portText_le
  have huser := length_cutUser_le p.authority
  have hrest := length_cutPort_le (cutUser p.authority).2
  rw [ofParts, cutHost_eq] at h
  obtain ⟨host, port, hhostOf, -, -, hu⟩ := (ofPartsHost_eq_ok_iff p (cutUser p.authority).1
    (cutPort (cutUser p.authority).2).1 (cutPort (cutUser p.authority).2).2 u).1 h
  have hhost : u.host = host := by rw [hu]
  have hinfo : u.userInfo = .ofList (percentEncode keepsUserInfo (cutUser p.authority).1) := by
    rw [hu]
  rw [← hhost] at hhostOf
  have htext := length_hostText_le hhostOf
  have hescaped := length_percentEncode_le keepsUserInfo (cutUser p.authority).1
  rw [length_authority, hinfo, String.toList_ofList]
  split <;> omega

/-- An authority does not get longer by being read again. -/
theorem length_authority_normal_le (u : Url) :
    u.normal.authority.toList.length ≤ u.authority.toList.length := by
  have hhost : u.normal.hostText.toList.length = u.hostText.toList.length := by
    unfold hostText normal normalHost
    by_cases hcolon : u.host.toList.contains ':' = true
    · simp only [hcolon, if_true]
    · simp only [hcolon, if_false, String.toList_ofList, contains_colon_map_toLower, List.length_map,
        Bool.false_eq_true]
  have hport : (marked ':' u.normal.portText?).length ≤ (marked ':' u.portText?).length := by
    unfold portText? normal normalPort
    split
    · exact Nat.zero_le _
    · exact Nat.le_refl _
  have huser : u.normal.userInfo = u.userInfo := rfl
  rw [length_authority, length_authority, huser, hhost]
  omega

/-! ### URLs that are given a path -/

theorem Parts.tooLong?_eq_none {p : Parts} (hscheme : p.scheme.length ≤ maxLength)
    (hauthority : p.authority.length ≤ maxLength) (hpath : p.path.length ≤ maxLength)
    (hquery : (p.query.getD []).length ≤ maxLength)
    (hfragment : (p.fragment.getD []).length ≤ maxLength) : p.tooLong? = none := by
  unfold Parts.tooLong?
  rw [if_neg (Nat.not_lt.2 hscheme), if_neg (Nat.not_lt.2 hauthority), if_neg (Nat.not_lt.2 hpath),
    if_neg (Nat.not_lt.2 hquery), if_neg (Nat.not_lt.2 hfragment)]

/-- An authority that is not too long has no part in what is. -/
theorem Parts.tooLong?_congr {p q : Parts} (hscheme : p.scheme = q.scheme)
    (hp : p.authority.length ≤ maxLength) (hq : q.authority.length ≤ maxLength)
    (hpath : p.path = q.path) (hquery : p.query = q.query) (hfragment : p.fragment = q.fragment) :
    p.tooLong? = q.tooLong? := by
  unfold Parts.tooLong?
  rw [hscheme, hpath, hquery, hfragment, if_neg (Nat.not_lt.2 hp), if_neg (Nat.not_lt.2 hq)]

theorem withTarget_eq_rebuild (u : Url) (target : List Char) :
    u.withTarget target =
      rebuild { u.parts with path := (cutTarget target).1, query := (cutTarget target).2 } := rfl

/-- **URLs whose authorities are read alike are alike once they are given the same path.** -/
theorem withTarget_congr {u v : Url} (hscheme : v.scheme = u.scheme)
    (hfragment : v.fragment = u.fragment) (hu : u.authority.toList.length ≤ maxLength)
    (hv : v.authority.toList.length ≤ maxLength)
    (hread : readAuthority v.scheme.toList v.authority.toList =
      readAuthority u.scheme.toList u.authority.toList) (target : List Char) :
    v.withTarget target = u.withTarget target := by
  unfold withTarget
  generalize cutTarget target = cut
  obtain ⟨path, query⟩ := cut
  have hlong : ({ v.parts with path, query } : Parts).tooLong? =
      ({ u.parts with path, query } : Parts).tooLong? :=
    Parts.tooLong?_congr (congrArg String.toList hscheme) hv hu rfl rfl hfragment
  have hparts : ofParts { v.parts with path, query } = ofParts { u.parts with path, query } := by
    rw [hscheme] at hread
    simp only [ofParts_eq_bind, parts, hscheme, hfragment, hread]
    rfl
  simp only [rebuild, hlong, hparts]

theorem length_cutTarget_le (target : List Char) :
    (cutTarget target).1.length ≤ target.length ∧
      ((cutTarget target).2.getD []).length ≤ target.length := by
  have htake := (List.takeWhile_prefix (l := target) fun c => !(c == '?')).length_le
  have hdrop := (List.dropWhile_suffix (l := target) fun c => !(c == '?')).length_le
  unfold cutTarget cutAt
  split
  · next heq =>
    obtain ⟨hpath, hrest⟩ := Prod.mk.inj heq
    rw [hpath] at htake
    rw [hrest, List.length_cons] at hdrop
    exact ⟨htake, Nat.le_of_succ_le hdrop⟩
  · next heq =>
    rw [(Prod.mk.inj heq).1] at htake
    exact ⟨htake, Nat.zero_le _⟩

/-- **A URL with a misread host is not put together again**, be its parts short or too long. -/
theorem IsSpelled.rebuild_of_isMisread {u : Url} (hu : u.IsSpelled) (h : u.isMisread = true)
    {p : Parts} (hscheme : p.scheme = u.scheme.toList) (hauthority : p.authority = u.authority.toList) :
    rebuild p =
      .error ((p.tooLong?.map UrlError.partTooLong).getD (.address4 u.hostText)) := by
  have hparts : ofParts p = .error (.address4 u.hostText) := by
    rw [ofParts_eq_bind, hscheme, hauthority, hu.readAuthority_of_isMisread h]
    rfl
  unfold rebuild
  cases p.tooLong? with
  | none => exact hparts
  | some part => rfl

end Url

end WorkspaceWatch
