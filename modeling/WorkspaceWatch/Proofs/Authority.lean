/-
**The authority of a URL, read again.**

A URL that is put together from the parts of another one has its authority written out and read
again.  The user information comes back as it was.  The host comes back with small letters, those of
escapes included, and the port comes back unless it is the scheme's own: both are so already if the
URL was put together before, but not always if it is a text that was read just once.

Main definitions:

* `WorkspaceWatch.Url.normal` — a URL with host and port as they come back;
* `WorkspaceWatch.Url.SameOrigin` — URLs with the same scheme, user information, host and port;
* `WorkspaceWatch.Url.IsSpelled`, `WorkspaceWatch.Url.IsReadable` — a URL whose parts are spelled as
  they are kept, and one that has a host besides, so that its authority can be read again;
* `WorkspaceWatch.Url.isMisread`, `WorkspaceWatch.Url.HasReadablePort` — whether a host cannot be read
  again, and whether a port can;
* `WorkspaceWatch.Url.cutUser`, `WorkspaceWatch.Url.cutPort` — the two cuts that are made in an
  authority.

Main results:

* `WorkspaceWatch.Url.normal_normal` — what came back once comes back as it is;
* `WorkspaceWatch.Url.IsSpelled.cutHost_authority` — **an authority is cut where it was put
  together**;
* `WorkspaceWatch.Url.IsReadable.rebuild` — **a URL that is put together from the parts of another
  has its origin**, and can be read again in its turn.
-/

import Mathlib.Data.List.TakeWhile
import WorkspaceWatch.Proofs.Host

set_option autoImplicit false

namespace WorkspaceWatch

namespace Url

/-! ### What comes back -/

/-- A host as it comes back: a name in small letters, an address in brackets as it is. -/
def normalHost (host : String) : String :=
  if host.toList.contains ':' then host else .ofList (host.toList.map Char.toLower)

/-- A port as it comes back. -/
def normalPort (scheme : String) (port : Option Int) : Option Int :=
  if defaultPort? scheme = port then none else port

/-- A URL with host and port as they come back. -/
def normal (u : Url) : Url :=
  { u with host := normalHost u.host, port := normalPort u.scheme u.port }

/-- URLs with the same scheme, user information, host and port. -/
structure SameOrigin (u v : Url) : Prop where
  /-- The schemes are the same. -/
  scheme : v.scheme = u.scheme
  /-- So is the user information. -/
  userInfo : v.userInfo = u.userInfo
  /-- So are the hosts. -/
  host : v.host = u.host
  /-- So are the ports. -/
  port : v.port = u.port

theorem contains_colon_map_toLower (cs : List Char) :
    (cs.map Char.toLower).contains ':' = cs.contains ':' := by
  have hcolon : ∀ c : Char, (':' == c.toLower) = (':' == c) :=
    toLower_induction (P := fun c d => (':' == d) = (':' == c)) (by decide)
      fun _ _ => rfl
  induction cs with
  | nil => rfl
  | cons c cs ih => rw [List.map_cons, List.contains_cons, List.contains_cons, ih, hcolon]

theorem normalHost_normalHost (host : String) : normalHost (normalHost host) = normalHost host := by
  by_cases h : host.toList.contains ':' = true
  · have hsame : normalHost host = host := if_pos h
    rw [hsame, hsame]
  · have hlower : normalHost host = .ofList (host.toList.map Char.toLower) := if_neg h
    rw [hlower, normalHost, String.toList_ofList, contains_colon_map_toLower, if_neg h,
      map_toLower_map_toLower]

theorem normalPort_normalPort (scheme : String) (port : Option Int) :
    normalPort scheme (normalPort scheme port) = normalPort scheme port := by
  unfold normalPort
  by_cases h : defaultPort? scheme = port
  · rw [if_pos h]
    split <;> rfl
  · rw [if_neg h, if_neg h]

/-- What came back once comes back as it is. -/
theorem normal_normal (u : Url) : u.normal.normal = u.normal := by
  simp only [normal, normalHost_normalHost, normalPort_normalPort]

theorem SameOrigin.normal {u v : Url} (h : u.SameOrigin v) : u.normal.SameOrigin v.normal := by
  refine ⟨h.scheme, h.userInfo, congrArg normalHost h.host, ?_⟩
  simp only [Url.normal, h.scheme, h.port]

theorem SameOrigin.trans {u v w : Url} (h : u.SameOrigin v) (h' : v.SameOrigin w) :
    u.SameOrigin w :=
  ⟨h'.scheme.trans h.scheme, h'.userInfo.trans h.userInfo, h'.host.trans h.host,
    h'.port.trans h.port⟩

/-- What came back twice is what came back once. -/
theorem SameOrigin.normal_trans {u v w : Url} (h : u.normal.SameOrigin v)
    (h' : v.normal.SameOrigin w) : u.normal.SameOrigin w := by
  have hnormal := h.normal
  rw [normal_normal] at hnormal
  exact hnormal.trans h'

/-! ### Cuts in an authority -/

/-- The user information of an authority, and what comes after it. -/
def cutUser (authority : List Char) : List Char × List Char :=
  let reversed := authority.reverse
  if authority.contains '@' then
    ((reversed.dropWhile (· != '@')).drop 1 |>.reverse, (reversed.takeWhile (· != '@')).reverse)
  else ([], authority)

/-- The host and the port of what comes after the user information. -/
def cutPort (rest : List Char) : List Char × List Char :=
  let (host, rest) :=
    if rest.head? == some '[' && rest.contains ']' then
      let reversed := rest.reverse
      ((reversed.dropWhile (· != ']')).reverse, (reversed.takeWhile (· != ']')).reverse)
    else cutAt (fun c => c == ':' || c == '@') rest
  (host, match rest with
    | ':' :: port => port
    | port => port)

/-- The two cuts are made one after the other. -/
theorem cutHost_eq (authority : List Char) :
    cutHost authority = ((cutUser authority).1, cutPort (cutUser authority).2) := by
  unfold cutHost cutUser
  split <;> rfl

/-- What comes after the user information has no at sign. -/
theorem notMem_cutUser (authority : List Char) : '@' ∉ (cutUser authority).2 := by
  unfold cutUser
  split
  · intro hmem
    have hat := List.mem_takeWhile_imp (List.mem_reverse.1 hmem)
    exact absurd hat (by decide)
  · next h => simpa [List.contains_iff_mem] using h

/-- User information is cut off before the last at sign. -/
theorem cutUser_append {userInfo rest : List Char} (h : '@' ∉ rest) :
    cutUser (userInfo ++ '@' :: rest) = (userInfo, rest) := by
  have hreverse : (userInfo ++ '@' :: rest).reverse = rest.reverse ++ '@' :: userInfo.reverse := by
    simp
  have hrest : '@' ∉ rest.reverse := fun hmem => h (List.mem_reverse.1 hmem)
  obtain ⟨htake, hdrop⟩ := takeWhile_append_cons hrest userInfo.reverse
  have hcontains : (userInfo ++ '@' :: rest).contains '@' = true := by simp
  unfold cutUser
  rw [if_pos hcontains, hreverse]
  simp only [htake, hdrop]
  simp

theorem cutUser_of_notMem {rest : List Char} (h : '@' ∉ rest) : cutUser rest = ([], rest) := by
  rw [cutUser, if_neg (by simpa [List.contains_iff_mem] using h)]

theorem mem_of_mem_cutUser {authority : List Char} {c : Char} (h : c ∈ (cutUser authority).2) :
    c ∈ authority := by
  unfold cutUser at h
  split at h
  · exact List.mem_reverse.1 ((List.takeWhile_prefix _).subset (List.mem_reverse.1 h))
  · exact h

theorem mem_of_mem_cutPort {rest : List Char} {c : Char} (h : c ∈ (cutPort rest).1) : c ∈ rest := by
  unfold cutPort at h
  by_cases hbracket : (rest.head? == some '[' && rest.contains ']') = true
  · rw [if_pos hbracket] at h
    have hmem := (List.dropWhile_suffix _).subset (List.mem_reverse.1 h)
    exact List.mem_reverse.1 hmem
  · rw [if_neg hbracket] at h
    exact (List.takeWhile_prefix _).subset h

/-- A host without brackets ends at the first colon. -/
theorem cutPort_name {host : List Char} (h : ∀ c ∈ host, c ≠ ':' ∧ c ≠ '@' ∧ c ≠ '[')
    (port? : Option (List Char)) :
    cutPort (host ++ marked ':' port?) = (host, port?.getD []) := by
  have hhead : ((host ++ marked ':' port?).head? == some '[') = false := by
    rw [beq_eq_false_iff_ne]
    intro heq
    cases host with
    | nil => cases port? <;> simp [marked] at heq
    | cons c host => exact (h c List.mem_cons_self).2.2 (by simpa using heq)
  have hcut : cutAt (fun c => c == ':' || c == '@') (host ++ marked ':' port?) =
      (host, marked ':' port?) := by
    refine cutAt_append ?_ fun c hc => ?_
    · intro c hc
      simp [h c hc]
    · rw [eq_of_mem_head?_marked hc]
      rfl
  unfold cutPort
  rw [hhead, Bool.false_and, if_neg (by simp), hcut]
  cases port? <;> simp [marked]

/-- One in brackets ends at the last bracket. -/
theorem cutPort_bracketed (address : List Char) {port? : Option (List Char)}
    (h : ']' ∉ marked ':' port?) :
    cutPort ('[' :: (address ++ ']' :: marked ':' port?)) =
      ('[' :: (address ++ [']']), port?.getD []) := by
  have hreverse : ('[' :: (address ++ ']' :: marked ':' port?)).reverse =
      (marked ':' port?).reverse ++ ']' :: ('[' :: address).reverse := by
    simp
  have hport : ']' ∉ (marked ':' port?).reverse := fun hmem => h (List.mem_reverse.1 hmem)
  obtain ⟨htake, hdrop⟩ := takeWhile_append_cons hport ('[' :: address).reverse
  unfold cutPort
  rw [if_pos (by simp), hreverse]
  simp only [htake, hdrop]
  cases port? <;> simp [marked]

/-! ### The authority of a URL -/

/-- The port of a URL, written out. -/
def portText? (u : Url) : Option (List Char) := u.port.map fun n => (toString n).toList

/-- A URL whose parts are spelled as they are kept. -/
structure IsSpelled (u : Url) : Prop where
  /-- The scheme has small letters. -/
  scheme : u.scheme.toList.map Char.toLower = u.scheme.toList
  /-- The user information is escaped. -/
  userInfo : ∀ c ∈ u.userInfo.toList, keepsUserInfo c = true
  /-- The host is an escaped name, or an address. -/
  host : (∀ c ∈ u.host.toList, keepsHost c = true) ∨
    isAddress6 u.host.toList = true ∧ '@' ∉ u.host.toList

/-- A URL whose authority can be read again. -/
structure IsReadable (u : Url) : Prop where
  /-- The scheme has small letters. -/
  scheme : u.scheme.toList.map Char.toLower = u.scheme.toList
  /-- The user information is escaped. -/
  userInfo : ∀ c ∈ u.userInfo.toList, keepsUserInfo c = true
  /-- There is a host. -/
  nonempty : u.host ≠ ""
  /-- It is an escaped name, or an address. -/
  host : (∀ c ∈ u.host.toList, keepsHost c = true) ∨
    isAddress6 u.host.toList = true ∧ '@' ∉ u.host.toList

theorem IsReadable.isSpelled {u : Url} (hu : u.IsReadable) : u.IsSpelled :=
  ⟨hu.scheme, hu.userInfo, hu.host⟩

/-- Every URL that is put together from parts is spelled as its parts are kept. -/
theorem isSpelled_of_ofParts {p : Parts} {u : Url} (h : ofParts p = .ok u) : u.IsSpelled := by
  rw [ofParts, cutHost_eq] at h
  obtain ⟨host, port, hhostOf, -, -, rfl⟩ := (ofPartsHost_eq_ok_iff p _ _ _ u).1 h
  constructor
  · simp only [String.toList_ofList, map_toLower_map_toLower]
  · intro c hc
    rw [String.toList_ofList] at hc
    exact keep_of_mem_percentEncode keepsEscapes_keepsUserInfo hc
  · rcases hostOf_eq_ok hhostOf with hname | ⟨haddress, hmem⟩
    · exact .inl hname
    · refine .inr ⟨haddress, ?_⟩
      intro hat
      exact notMem_cutUser _ (mem_of_mem_cutPort (hmem '@' hat))

/-- If it has a host, it can be read again. -/
theorem isReadable_of_ofParts {p : Parts} {u : Url} (h : ofParts p = .ok u) (hhost : u.host ≠ "") :
    u.IsReadable := by
  have hspelled := isSpelled_of_ofParts h
  exact ⟨hspelled.scheme, hspelled.userInfo, hhost, hspelled.host⟩

theorem hostPort_toList (u : Url) :
    u.hostPort.toList = u.hostText.toList ++ marked ':' u.portText? := by
  rw [hostPort, String.toList_append, portText?]
  cases u.port with
  | none => rfl
  | some n =>
      rw [String.toList_append]
      rfl

theorem notMem_portText {u : Url} {c : Char} (hc : isNumeral c = false) (hcolon : c ≠ ':') :
    c ∉ marked ':' u.portText? := by
  unfold portText?
  cases u.port with
  | none => exact List.not_mem_nil
  | some n =>
      intro hmem
      rcases List.mem_cons.1 hmem with heq | hmem
      · exact hcolon heq
      · rw [isNumeral_of_mem_toString hmem] at hc
        cases hc

theorem hostText_of_keepsHost {u : Url} (h : ∀ c ∈ u.host.toList, keepsHost c = true) :
    ¬u.host.toList.contains ':' = true ∧ u.hostText = u.host := by
  have hcolon : ¬u.host.toList.contains ':' = true := by
    rw [List.contains_iff_mem]
    intro hmem
    exact absurd (h _ hmem) (by decide)
  exact ⟨hcolon, if_neg hcolon⟩

/-- The host is written as it is if it is a name, and in brackets if it is an address. -/
theorem IsSpelled.hostText_eq {u : Url} (hu : u.IsSpelled) :
    ((∀ c ∈ u.host.toList, keepsHost c = true) ∧ u.hostText = u.host ∧
        normalHost u.host = .ofList (u.host.toList.map Char.toLower)) ∨
      isAddress6 u.host.toList = true ∧ '@' ∉ u.host.toList ∧
        u.hostText.toList = '[' :: (u.host.toList ++ [']']) ∧ normalHost u.host = u.host := by
  rcases hu.host with hname | ⟨haddress, hat⟩
  · obtain ⟨hcolon, htext⟩ := hostText_of_keepsHost hname
    exact .inl ⟨hname, htext, if_neg hcolon⟩
  · have hcolon := contains_colon_of_isAddress6 haddress
    refine .inr ⟨haddress, hat, ?_, if_pos hcolon⟩
    rw [hostText, if_pos hcolon, String.toList_append, String.toList_append]
    rfl

theorem IsSpelled.cutPort_hostPort {u : Url} (hu : u.IsSpelled) :
    '@' ∉ u.hostPort.toList ∧
      cutPort u.hostPort.toList = (u.hostText.toList, u.portText?.getD []) := by
  have hport : '@' ∉ marked ':' u.portText? := notMem_portText (by decide) (by decide)
  rw [hostPort_toList, List.mem_append, not_or]
  rcases hu.hostText_eq with ⟨hname, htext, -⟩ | ⟨haddress, hat, htext, -⟩
  · have hplain : ∀ c ∈ u.host.toList, c ≠ ':' ∧ c ≠ '@' ∧ c ≠ '[' := by
      intro c hc
      have hkeep := hname c hc
      refine ⟨?_, ?_, ?_⟩ <;> rintro rfl <;> revert hkeep <;> decide
    rw [htext]
    exact ⟨⟨fun hmem => (hplain _ hmem).2.1 rfl, hport⟩, cutPort_name hplain _⟩
  · have hbracket : ']' ∉ marked ':' u.portText? := notMem_portText (by decide) (by decide)
    have hcut := cutPort_bracketed u.host.toList hbracket
    rw [htext]
    refine ⟨⟨by simpa using hat, hport⟩, ?_⟩
    simpa using hcut

/-- **An authority is cut where it was put together.** -/
theorem IsSpelled.cutHost_authority {u : Url} (hu : u.IsSpelled) :
    cutHost u.authority.toList =
      (u.userInfo.toList, u.hostText.toList, u.portText?.getD []) := by
  obtain ⟨hat, hcut⟩ := hu.cutPort_hostPort
  rw [cutHost_eq, authority, String.toList_append]
  by_cases huser : u.userInfo = ""
  · rw [if_pos huser, huser, String.toList_empty, List.nil_append, cutUser_of_notMem hat, hcut]
  · have htext : (u.userInfo ++ "@").toList ++ u.hostPort.toList =
        u.userInfo.toList ++ '@' :: u.hostPort.toList := by
      rw [String.toList_append, List.append_assoc]
      rfl
    rw [if_neg huser, htext, cutUser_append hat, hcut]

/-- Whether the host of a URL looks like an address of four numbers and is none, so that it cannot
be read again. The ASCII form of a name can be such a host. -/
def isMisread (u : Url) : Bool :=
  looksLikeAddress4 u.hostText.toList && !isAddress4 u.hostText.toList

/-- An ASCII host is not misread. -/
theorem isMisread_of_hostOf {u : Url} {cs : List Char} (h : hostOf cs = .ok u.host)
    (hascii : ∀ c ∈ cs, isAscii c = true) : u.isMisread = false := by
  unfold isMisread hostText
  split
  · have hbracket : ("[" ++ u.host ++ "]").toList = '[' :: (u.host.toList ++ [']']) := by
      rw [String.toList_append, String.toList_append]
      rfl
    rw [hbracket, looksLikeAddress4_bracket, Bool.false_and]
  · cases hlooks : looksLikeAddress4 u.host.toList with
    | false => rfl
    | true => rw [isAddress4_of_hostOf h hascii hlooks, Bool.true_and, Bool.not_true]

/-- **A host comes back with small letters**, unless it is misread. -/
theorem IsSpelled.hostOf_hostText {u : Url} (hu : u.IsSpelled) :
    hostOf u.hostText.toList =
      if u.isMisread then .error (.address4 u.hostText) else .ok (normalHost u.host) := by
  unfold isMisread
  rcases hu.hostText_eq with ⟨hname, htext, hnormal⟩ | ⟨haddress, -, htext, hnormal⟩
  · rw [htext, hnormal, hostOf_name hname, String.ofList_toList]
  · rw [htext, looksLikeAddress4_bracket, hostOf_bracketed haddress, hnormal]
    rfl

/-- The port of a URL can be read again. -/
def HasReadablePort (u : Url) : Prop :=
  ∀ n, u.port = some n → wholeNumber? (toString n) = some n

/-- **A port comes back unless it is the scheme's own**, if it can be read. -/
theorem portOf_portText_eq_ok_iff (u : Url) (port : Option Int) :
    portOf u.scheme (u.portText?.getD []) = .ok port ↔
      u.HasReadablePort ∧ port = normalPort u.scheme u.port := by
  unfold HasReadablePort portText?
  cases u.port with
  | none =>
      rw [normalPort, ite_self]
      simp [portOf, eq_comm]
  | some n =>
      have hnonempty : (toString n).toList.isEmpty = false := by
        rw [List.isEmpty_eq_false_iff]
        intro hnil
        rw [toList_toString_int, List.append_eq_nil_iff] at hnil
        exact Nat.toDigits_ne_nil hnil.2
      simp only [portOf, Option.map_some, Option.getD_some, hnonempty, Bool.false_eq_true, if_false,
        String.ofList_toList, Option.some.injEq, forall_eq']
      cases hread : wholeNumber? (toString n) with
      | none => simp
      | some m =>
          rw [eq_of_wholeNumber?_toString hread]
          simp [normalPort, eq_comm]

/-- **A URL that is put together from the parts of another has its origin**, as it comes back. -/
theorem IsSpelled.sameOrigin_of_ofParts {u v : Url} (hu : u.IsSpelled) {p : Parts}
    (hscheme : p.scheme = u.scheme.toList) (hauthority : p.authority = u.authority.toList)
    (h : ofParts p = .ok v) : u.normal.SameOrigin v := by
  have hparts : ofPartsHost p u.userInfo.toList u.hostText.toList (u.portText?.getD []) =
      .ok v := by
    rw [ofParts, hauthority, hu.cutHost_authority] at h
    exact h
  obtain ⟨host, port, hhost, hport, -, rfl⟩ := (ofPartsHost_eq_ok_iff p _ _ _ v).1 hparts
  rw [hscheme, String.ofList_toList] at hport
  rw [hu.hostOf_hostText] at hhost
  have hhost' : host = normalHost u.host := by
    split at hhost
    · cases hhost
    · exact (Except.ok.inj hhost).symm
  refine ⟨?_, ?_, hhost', ((portOf_portText_eq_ok_iff u port).1 hport).2⟩
  · simp only [hscheme, hu.scheme, String.ofList_toList]
    rfl
  · simp only [percentEncode_of_keep hu.userInfo, String.ofList_toList]
    rfl

theorem normal_host_ne {u : Url} (h : u.host ≠ "") : u.normal.host ≠ "" := by
  unfold normal normalHost
  split
  · exact h
  · intro hempty
    have hnil := congrArg String.toList hempty
    rw [String.toList_ofList, String.toList_empty, List.map_eq_nil_iff] at hnil
    exact h (String.toList_inj.1 hnil)

/-- It can be read again in its turn. -/
theorem IsReadable.rebuild {u v : Url} (hu : u.IsReadable) {p : Parts}
    (hscheme : p.scheme = u.scheme.toList) (hauthority : p.authority = u.authority.toList)
    (h : Url.rebuild p = .ok v) : u.normal.SameOrigin v ∧ v.IsReadable := by
  unfold Url.rebuild at h
  split at h
  · cases h
  · have horigin := hu.isSpelled.sameOrigin_of_ofParts hscheme hauthority h
    refine ⟨horigin, isReadable_of_ofParts h ?_⟩
    rw [horigin.host]
    exact normal_host_ne hu.nonempty

end Url

end WorkspaceWatch
