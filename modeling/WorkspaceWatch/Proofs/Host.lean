/-
**Hosts and ports as they are read.**

A host is read as a name, which gets small letters and escapes or its ASCII form, or as an address,
which stays as it is.  Reading it again changes nothing but letters: those of the escapes.  A port is
read as a number, and a number that is written out is read as itself.

Main definitions:

* `WorkspaceWatch.isNumeral` — the characters of a whole number that is written out.

Main results:

* `WorkspaceWatch.wholeNumber?_toString`, `WorkspaceWatch.wholeNumber?_toString_of_read` — **a whole
  number that is written out is read as itself**, in any case if it was read before;
* `WorkspaceWatch.Url.hostOf_eq_ok` — what a host is made of once it was read;
* `WorkspaceWatch.Url.hostOf_name`, `WorkspaceWatch.Url.hostOf_bracketed` — and what it is read as
  once more: the ASCII form of a name may look like an address of four numbers then;
* `WorkspaceWatch.Url.isAddress4_of_hostOf` — but no ASCII host does, if it is none.
-/

import WorkspaceWatch.Proofs.HostNames

set_option autoImplicit false

namespace WorkspaceWatch

/-! ### Numbers written out -/

theorem digitRowValue_toDigits (n : Nat) : digitRowValue (Nat.toDigits 10 n) = n := by
  calc digitRowValue (Nat.toDigits 10 n) = Nat.ofDigitChars 10 (Nat.toDigits 10 n) 0 := by
        rw [digitRowValue, Nat.ofDigitChars_eq_foldl]
        simp only [Nat.mul_comm]
    _ = n := Nat.ofDigitChars_ten_toDigits

/-- The characters of a whole number that is written out. -/
def isNumeral (c : Char) : Bool := c.isDigit || c == '-'

theorem toNat_lt_of_isNumeral {c : Char} (h : isNumeral c = true) : c.toNat < 128 := by
  simp only [isNumeral, Char.isDigit, Bool.or_eq_true, Bool.and_eq_true, decide_eq_true_eq,
    beq_iff_eq] at h
  rcases h with ⟨-, hle⟩ | rfl
  · exact Nat.lt_of_le_of_lt (UInt32.le_iff_toNat_le.1 hle) (by decide)
  · decide

/-- A fact about the characters of a whole number, checked for each of them. -/
theorem forall_isNumeral {P : Char → Prop}
    (h : ∀ n : Fin 128, isNumeral (.ofNat n) = true → P (.ofNat n)) {c : Char}
    (hc : isNumeral c = true) : P c :=
  Url.forall_ascii (P := fun c => isNumeral c = true → P c) h (toNat_lt_of_isNumeral hc) hc

theorem trim_eq_self {p : Char → Bool} {cs : List Char} (h : ∀ c ∈ cs, p c = false) :
    trim p cs = cs := by
  have hdrop : ∀ ds : List Char, (∀ c ∈ ds, p c = false) → ds.dropWhile p = ds := by
    intro ds hds
    rw [List.dropWhile_eq_self_iff]
    intro hlength
    simp [hds _ (List.getElem_mem hlength)]
  have hreverse : ∀ c ∈ cs.reverse, p c = false := by
    intro c hc
    exact h c (List.mem_reverse.1 hc)
  rw [trim, trimEnd, hdrop cs h, hdrop _ hreverse, List.reverse_reverse]

theorem dropSeparators?_of_notMem (afterDigit : Bool) {cs : List Char} (h : '_' ∉ cs) :
    dropSeparators? afterDigit cs = some cs := by
  induction cs generalizing afterDigit with
  | nil => rfl
  | cons c cs ih =>
      obtain ⟨hc, hcs⟩ : c ≠ '_' ∧ '_' ∉ cs := by simpa [eq_comm] using h
      unfold dropSeparators?
      split
      · next heq => cases heq
      · next heq => exact absurd (List.cons.inj heq).1 hc
      · next heq => exact absurd (List.cons.inj heq).1 hc
      · next heq =>
        obtain ⟨rfl, rfl⟩ := List.cons.inj heq
        rw [ih _ hcs]
        rfl

/-- Nothing is dropped from a numeral before it is read. -/
theorem dropSeparators?_numeral {cs : List Char} (h : ∀ c ∈ cs, isNumeral c = true) :
    dropSeparators? false ((trim isWhiteSpace cs).map asciiDigit) = some cs := by
  have hspace : ∀ c ∈ cs, isWhiteSpace c = false := by
    intro c hc
    exact forall_isNumeral (P := fun c => isWhiteSpace c = false) (by decide) (h c hc)
  have hdigits : cs.map asciiDigit = cs := by
    refine (List.map_congr_left ?_).trans (List.map_id _)
    intro c hc
    exact forall_isNumeral (P := fun c => asciiDigit c = c) (by decide) (h c hc)
  have hmark : '_' ∉ cs := by
    intro hmem
    exact absurd (h _ hmem) (by decide)
  rw [trim_eq_self hspace, hdigits, dropSeparators?_of_notMem false hmark]

theorem scanSign_of_isDigit {cs : List Char} (h : ∀ c ∈ cs, c.isDigit = true) :
    scanSign cs = (false, cs) := by
  unfold scanSign
  split
  · exact absurd (h '-' List.mem_cons_self) (by decide)
  · exact absurd (h '+' List.mem_cons_self) (by decide)
  · rfl

theorem isDigit_of_mem_toDigits {n : Nat} {c : Char} (h : c ∈ Nat.toDigits 10 n) :
    c.isDigit = true :=
  Nat.isDigit_of_mem_toDigits (by decide) (by decide) h

/-- A whole number is written as its digits, behind a sign if it is below zero. -/
theorem toList_toString_int (n : Int) :
    (toString n).toList = (if n < 0 then ['-'] else []) ++ Nat.toDigits 10 n.natAbs := by
  cases n with
  | ofNat m =>
      have hshown : toString (Int.ofNat m) = m.repr := rfl
      have hsign : ¬Int.ofNat m < 0 := by simp
      rw [hshown, Nat.toList_repr, if_neg hsign]
      rfl
  | negSucc m =>
      have hshown : toString (Int.negSucc m) = "-" ++ (m + 1).repr := rfl
      rw [hshown, String.toList_append, Nat.toList_repr, if_pos (Int.negSucc_lt_zero m)]
      rfl

theorem isNumeral_of_mem_toString {n : Int} {c : Char} (h : c ∈ (toString n).toList) :
    isNumeral c = true := by
  rw [toList_toString_int, List.mem_append] at h
  rcases h with h | h
  · split at h
    · rw [List.mem_singleton.1 h]
      rfl
    · cases h
  · rw [isNumeral, isDigit_of_mem_toDigits h]
    rfl

/-- **A whole number that is written out is read as itself**, if it is not too long to be read. -/
theorem wholeNumber?_toString (n : Int) : wholeNumber? (toString n) =
    if (Nat.toDigits 10 n.natAbs).length > maxDigits then none else some n := by
  have hdigits : ∀ c ∈ Nat.toDigits 10 n.natAbs, c.isDigit = true :=
    fun c => isDigit_of_mem_toDigits
  have hsign : scanSign (toString n).toList = (decide (n < 0), Nat.toDigits 10 n.natAbs) := by
    rw [toList_toString_int]
    by_cases hn : n < 0
    · simp [hn, scanSign]
    · simpa [hn] using scanSign_of_isDigit hdigits
  have hempty : (Nat.toDigits 10 n.natAbs).isEmpty = false :=
    List.isEmpty_eq_false_iff.2 Nat.toDigits_ne_nil
  have hall : (Nat.toDigits 10 n.natAbs).all Char.isDigit = true := List.all_eq_true.2 hdigits
  unfold wholeNumber?
  rw [dropSeparators?_numeral fun c hc => isNumeral_of_mem_toString hc]
  simp only [hsign, digitRowValue_toDigits, hempty, hall, Bool.not_true, Bool.or_self, Bool.false_or,
    decide_eq_true_eq]
  split
  · rfl
  · congr 1
    split <;> omega

theorem eq_of_wholeNumber?_toString {n m : Int} (h : wholeNumber? (toString n) = some m) :
    m = n := by
  rw [wholeNumber?_toString] at h
  split at h
  · cases h
  · exact (Option.some.inj h).symm

/-- The number that a row of digits stands for is written with no more digits. -/
theorem length_toDigits_digitRowValue_le {cs : List Char} (h : ∀ c ∈ cs, c.isDigit = true)
    (hne : cs ≠ []) : (Nat.toDigits 10 (digitRowValue cs)).length ≤ cs.length := by
  have hfrom : ∀ n, cs.foldl (fun n c => n * 10 + (c.toNat - '0'.toNat)) n <
      (n + 1) * 10 ^ cs.length := by
    clear hne
    induction cs with
    | nil => intro n; simp
    | cons c cs ih =>
        intro n
        have hc := h c List.mem_cons_self
        have hle : c.toNat ≤ '9'.toNat := by
          simp only [Char.isDigit, Bool.and_eq_true, decide_eq_true_eq] at hc
          exact UInt32.le_iff_toNat_le.1 hc.2
        have hvalue : c.toNat - '0'.toNat ≤ 9 := by
          have hzero : '0'.toNat = 48 := rfl
          have hnine : '9'.toNat = 57 := rfl
          omega
        calc (c :: cs).foldl (fun n c => n * 10 + (c.toNat - '0'.toNat)) n
            < (n * 10 + (c.toNat - '0'.toNat) + 1) * 10 ^ cs.length :=
              ih (fun d hd => h d (List.mem_cons_of_mem c hd)) _
          _ ≤ ((n + 1) * 10) * 10 ^ cs.length := Nat.mul_le_mul_right _ (by omega)
          _ = (n + 1) * 10 ^ (c :: cs).length := by
              rw [List.length_cons, Nat.pow_succ, Nat.mul_assoc, Nat.mul_comm 10]
  have hvalue := hfrom 0
  rw [Nat.zero_add, Nat.one_mul] at hvalue
  exact (Nat.length_toDigits_le_iff (by decide) (List.length_pos_iff.2 hne)).2 hvalue

/-- **A whole number that was read is read again when it is written out.** -/
theorem wholeNumber?_toString_of_read {s : String} {n : Int} (h : wholeNumber? s = some n) :
    wholeNumber? (toString n) = some n := by
  unfold wholeNumber? at h
  split at h
  · cases h
  · next cs _ =>
    generalize scanSign cs = scanned at h
    obtain ⟨negative, digits⟩ := scanned
    simp only at h
    split at h
    · cases h
    · next hread =>
      simp only [Bool.or_eq_true, Bool.not_eq_true', decide_eq_true_eq, not_or, Bool.not_eq_false,
        List.all_eq_true, Nat.not_lt] at hread
      obtain ⟨⟨hne, hdigits⟩, hlength⟩ := hread
      have habs : n.natAbs = digitRowValue digits := by
        have hn := Option.some.inj h
        split at hn <;> omega
      rw [wholeNumber?_toString, if_neg]
      rw [Nat.not_lt, habs]
      exact Nat.le_trans (length_toDigits_digitRowValue_le hdigits
        (by simpa using hne)) hlength

namespace Url

/-! ### Hosts -/

theorem mem_of_isAddress4 {cs : List Char} (h : isAddress4 cs = true) {c : Char} (hc : c ∈ cs) :
    c = '.' ∨ c.isDigit = true := by
  simp only [isAddress4, Bool.and_eq_true, List.all_eq_true] at h
  by_cases hmark : c = '.'
  · exact .inl hmark
  · right
    obtain ⟨piece, hpiece, hmem⟩ := exists_mem_splitAtMark hc hmark
    have hoctet := h.2 piece hpiece
    simp only [isOctet, Bool.and_eq_true, List.all_eq_true] at hoctet
    exact hoctet.1.1.1.2 c hmem

/-- An address of four numbers is made of characters that a host keeps, none of them a letter. -/
theorem keepsHost_of_isAddress4 {cs : List Char} (h : isAddress4 cs = true) {c : Char}
    (hc : c ∈ cs) : keepsHost c = true ∧ c.toLower = c := by
  rcases mem_of_isAddress4 h hc with rfl | hdigit
  · decide
  · have hnumeral : isNumeral c = true := by rw [isNumeral, hdigit]; rfl
    exact forall_isNumeral (P := fun c => keepsHost c = true ∧ c.toLower = c)
      (by decide) hnumeral

theorem keepsEscapes_keepsHost : KeepsEscapes keepsHost :=
  keepsEscapes_of_ascii (by decide) (by decide)

theorem keepsEscapes_keepsUserInfo : KeepsEscapes keepsUserInfo :=
  keepsEscapes_of_ascii (by decide) (by decide)

theorem keepsHost_toLower {c : Char} (h : keepsHost c = true) : keepsHost c.toLower = true :=
  toLower_induction (P := fun c d => keepsHost c = true → keepsHost d = true) (by decide)
    (fun _ _ h => h) c h

theorem keepsHost_of_mem_map_toLower {cs : List Char} (h : ∀ c ∈ cs, keepsHost c = true) {c : Char}
    (hc : c ∈ cs.map Char.toLower) : keepsHost c = true := by
  obtain ⟨raw, hraw, rfl⟩ := List.mem_map.1 hc
  exact keepsHost_toLower (h raw hraw)

theorem map_toLower_of_isAddress4 {cs : List Char} (h : isAddress4 cs = true) :
    cs.map Char.toLower = cs :=
  (List.map_congr_left fun _ hc => (keepsHost_of_isAddress4 h hc).2).trans (List.map_id _)

/-- What looks like an address of four numbers is made of digits and dots. -/
theorem mem_of_looksLikeAddress4 {cs : List Char} (h : looksLikeAddress4 cs = true) {c : Char}
    (hc : c ∈ cs) : c = '.' ∨ c.isDigit = true := by
  by_cases hmark : c = '.'
  · exact .inl hmark
  · obtain ⟨piece, hpiece, hmem⟩ := exists_mem_splitAtMark hc hmark
    simp only [looksLikeAddress4, Bool.and_eq_true, List.all_eq_true] at h
    exact .inr ((h.2 piece hpiece).2 c hmem)

/-- It still looks so in small letters. -/
theorem looksLikeAddress4_map_toLower (cs : List Char) :
    looksLikeAddress4 (cs.map Char.toLower) = looksLikeAddress4 cs := by
  have hdot : ∀ c : Char, c.toLower = '.' ↔ c = '.' :=
    toLower_induction (P := fun c d => d = '.' ↔ c = '.') (by decide) fun _ _ => Iff.rfl
  have hdigit : ∀ c : Char, c.toLower.isDigit = c.isDigit :=
    toLower_induction (P := fun c d => d.isDigit = c.isDigit) (by decide) fun _ _ => rfl
  simp only [looksLikeAddress4, splitAtMark_map hdot, List.length_map, List.all_map,
    Function.comp_def, hdigit, List.isEmpty_map]

/-- What stands in brackets does not look like an address of four numbers. -/
theorem looksLikeAddress4_bracket (cs : List Char) : looksLikeAddress4 ('[' :: cs) = false := by
  rw [Bool.eq_false_iff]
  intro hlooks
  rcases mem_of_looksLikeAddress4 hlooks List.mem_cons_self with h | h <;> revert h <;> decide

theorem keepsHost_of_isNameChar {c : Char} (h : c = '.' ∨ Idna.isNameChar c = true) :
    keepsHost c = true := by
  rcases h with rfl | h
  · rfl
  · simp only [Idna.isNameChar, Bool.or_eq_true] at h
    simp only [keepsHost, isUnreserved, Bool.or_eq_true]
    exact .inl (.inl (.inl (.inl h)))

/-- A host keeps ASCII characters only. -/
theorem isAscii_of_keepsHost {c : Char} (h : keepsHost c = true) : isAscii c = true := by
  rcases Bool.or_eq_true_iff.1 h with h | h
  · exact decide_eq_true (toNat_lt_of_isUnreserved h)
  · have hmarks : ∀ c ∈ ['!', '$', '&', '\x27', '(', ')', '*', '+', ',', ';', '=', '"', '`', '{', '}',
        '%', '|', '\\'], isAscii c = true := List.all_eq_true.1 rfl
    exact hmarks c (List.contains_iff_mem.1 h)

/-- A host is a name, all of whose characters are kept, or an address that was in brackets. -/
theorem hostOf_eq_ok {cs : List Char} {host : String} (h : hostOf cs = .ok host) :
    (∀ c ∈ host.toList, keepsHost c = true) ∨
      isAddress6 host.toList = true ∧ ∀ c ∈ host.toList, c ∈ cs := by
  unfold hostOf at h
  split at h
  · cases h
    exact .inl nofun
  · split at h
    · split at h
      · next haddress =>
        cases h
        left
        intro c hc
        rw [String.toList_ofList] at hc
        exact (keepsHost_of_isAddress4 haddress hc).1
      · cases h
    · split at h
      · simp only at h
        split at h
        · next haddress =>
          cases h
          rw [String.toList_ofList]
          refine .inr ⟨haddress, ?_⟩
          intro c hc
          exact List.mem_of_mem_drop (List.dropLast_subset _ hc)
        · cases h
      · split at h
        · cases h
          left
          intro c hc
          rw [String.toList_ofList] at hc
          exact keep_of_mem_percentEncode keepsEscapes_keepsHost hc
        · split at h
          · next name hname =>
            cases h
            left
            intro c hc
            rw [String.toList_ofList] at hc
            exact keepsHost_of_isNameChar (Idna.isNameChar_of_mem_toAscii hname c hc)
          · cases h

/-- An address in brackets is kept as it is. -/
theorem hostOf_bracketed {host : String} (h : isAddress6 host.toList = true) :
    hostOf ('[' :: (host.toList ++ [']'])) = .ok host := by
  have hbracketed : isBracketed ('[' :: (host.toList ++ [']'])) = true := by
    simp [isBracketed, List.getLast?_cons, List.getLast?_append]
  have haddress : (('[' :: (host.toList ++ [']'])).drop 1).dropLast = host.toList := by simp
  rw [hostOf, if_neg (by simp), looksLikeAddress4_bracket, if_neg (by simp), if_pos hbracketed]
  simp only [haddress, h, if_true, String.ofList_toList]

/-- A name of characters that are kept does not stand in brackets. -/
theorem isBracketed_of_keepsHost {cs : List Char} (hkeep : ∀ c ∈ cs, keepsHost c = true) :
    isBracketed cs = false := by
  cases cs with
  | nil => rfl
  | cons c rest =>
      rw [Bool.eq_false_iff]
      intro hbracketed
      simp only [isBracketed, Bool.and_eq_true, List.head?_cons, beq_iff_eq,
        Option.some.injEq] at hbracketed
      have hkept := hkeep c List.mem_cons_self
      rw [hbracketed.1.2] at hkept
      revert hkept
      decide

/-- **A name of characters that are kept gets small letters**, unless it looks like an address of
four numbers and is none. -/
theorem hostOf_name {cs : List Char} (hkeep : ∀ c ∈ cs, keepsHost c = true) :
    hostOf cs =
      if looksLikeAddress4 cs && !isAddress4 cs then .error (.address4 (.ofList cs))
      else .ok (.ofList (cs.map Char.toLower)) := by
  cases hcs : cs with
  | nil => rfl
  | cons c rest =>
      rw [← hcs, hostOf, if_neg (by simp [hcs])]
      have hascii : cs.all isAscii = true :=
        List.all_eq_true.2 fun _ hd => isAscii_of_keepsHost (hkeep _ hd)
      cases hlooks : looksLikeAddress4 cs with
      | false =>
          simp [isBracketed_of_keepsHost hkeep, hascii,
            percentEncode_of_keep fun _ hd => keepsHost_of_mem_map_toLower hkeep hd]
      | true =>
          cases haddress : isAddress4 cs with
          | false => rfl
          | true => simp [map_toLower_of_isAddress4 haddress]

theorem contains_colon_of_isAddress6 {cs : List Char} (h : isAddress6 cs = true) :
    cs.contains ':' = true := by
  rw [List.contains_iff_mem]
  by_contra hmem
  have hmem' : ':' ∉ cs.takeWhile (· != '%') := by
    intro hin
    exact hmem ((List.takeWhile_prefix _).subset hin)
  have hone := splitAtMark_of_notMem ':' _ hmem'
  simp only [isAddress6, groupsOf?, hone, Bool.and_eq_true] at h
  simp at h

/-- **An ASCII host that looks like an address of four numbers once it was read is one**: only the
ASCII form of another name may look so and be none. -/
theorem isAddress4_of_hostOf {cs : List Char} {host : String} (h : hostOf cs = .ok host)
    (hascii : ∀ c ∈ cs, isAscii c = true) (hlooks : looksLikeAddress4 host.toList = true) :
    isAddress4 host.toList = true := by
  unfold hostOf at h
  split at h
  · cases h
    exact absurd hlooks (by decide)
  · split at h
    · split at h
      · next haddress =>
        cases h
        rwa [String.toList_ofList]
      · cases h
    · next hplain =>
      split at h
      · simp only at h
        split at h
        · next haddress =>
          cases h
          rw [String.toList_ofList] at hlooks
          have hcolon := List.contains_iff_mem.1 (contains_colon_of_isAddress6 haddress)
          rcases mem_of_looksLikeAddress4 hlooks hcolon with heq | hdigit
          · exact absurd heq (by decide)
          · exact absurd hdigit (by decide)
        · cases h
      · rw [if_pos (List.all_eq_true.2 hascii)] at h
        cases h
        rw [String.toList_ofList] at hlooks
        -- there is no escape among digits and dots, so the host is kept as it was
        have hpercent : '%' ∉ percentEncode keepsHost (cs.map Char.toLower) := by
          intro hmem
          rcases mem_of_looksLikeAddress4 hlooks hmem with heq | hdigit
          · exact absurd heq (by decide)
          · exact absurd hdigit (by decide)
        rw [percentEncode_eq_self hpercent, looksLikeAddress4_map_toLower] at hlooks
        exact absurd hlooks hplain

end Url

end WorkspaceWatch
