/-
**The characters of ASCII host names.**

A host name in its ASCII form is made of letters, digits, hyphens and dots, whatever the script it
came from, and it is short.  The ASCII labels of a name are checked as what they stand for: a label
that says it is the ASCII form of another one is read for that, and what it is made of follows from
what it is read as.

Main definitions:

* `WorkspaceWatch.Idna.isNameChar` — the characters of the labels of an ASCII name.

Main results:

* `WorkspaceWatch.Punycode.isNameChar_of_mem_encode` — code points are written with such characters;
* `WorkspaceWatch.Punycode.isNameChar_of_decode?` — and read from such characters only;
* `WorkspaceWatch.Idna.isNameChar_of_mem_toAscii`, `WorkspaceWatch.Idna.length_toAscii_le` — **the
  ASCII form of a name is made of such characters and dots, and is short**.
-/

import WorkspaceWatch.Idna.Name
import WorkspaceWatch.Proofs.Target

set_option autoImplicit false

namespace WorkspaceWatch

/-! ### Small letters -/

theorem toLower_of_le {c : Char} (h : 128 ≤ c.toNat) : c.toLower = c := by
  unfold Char.toLower
  rw [dif_neg]
  rintro ⟨-, hle⟩
  have hlt : c.toNat ≤ 'Z'.toNat := UInt32.le_iff_toNat_le.1 hle
  exact absurd (Nat.le_trans h hlt) (by decide)

/-- A fact about a character and its small letter, checked for the ASCII characters. -/
theorem toLower_induction {P : Char → Char → Prop}
    (hascii : ∀ n : Fin 128, P (.ofNat n) (Char.ofNat n).toLower)
    (hself : ∀ c : Char, c.toLower = c → P c c) (c : Char) : P c c.toLower := by
  by_cases hc : c.toNat < 128
  · exact Url.forall_ascii (P := fun c => P c c.toLower) hascii hc
  · have hlower := toLower_of_le (Nat.le_of_not_lt hc)
    rw [hlower]
    exact hself c hlower

theorem toLower_toLower (c : Char) : c.toLower.toLower = c.toLower :=
  toLower_induction (P := fun _ d => d.toLower = d) (by decide) (fun _ h => h) c

theorem map_toLower_map_toLower (cs : List Char) :
    (cs.map Char.toLower).map Char.toLower = cs.map Char.toLower := by
  rw [List.map_map]
  refine List.map_congr_left ?_
  intro c _
  exact toLower_toLower c

/-! ### Pieces put together -/

theorem mem_joinWithMark {mark c : Char} {pieces : List (List Char)}
    (h : c ∈ joinWithMark mark pieces) : c = mark ∨ ∃ piece ∈ pieces, c ∈ piece := by
  fun_induction joinWithMark mark pieces with
  | case1 => cases h
  | case2 piece => exact .inr ⟨piece, List.mem_cons_self, h⟩
  | case3 piece next rest ih =>
      rcases List.mem_append.1 h with h | h
      · exact .inr ⟨piece, List.mem_cons_self, h⟩
      · rcases List.mem_cons.1 h with rfl | h
        · exact .inl rfl
        · refine (ih h).imp_right ?_
          rintro ⟨found, hmem, hc⟩
          exact ⟨found, List.mem_cons_of_mem piece hmem, hc⟩

/-- What comes of a list item by item comes of its items. -/
theorem exists_of_mem_mapM {ε α β : Type} {f : α → Except ε β} {xs : List α} {ys : List β}
    (h : xs.mapM f = .ok ys) {y : β} (hy : y ∈ ys) : ∃ x ∈ xs, f x = .ok y := by
  induction xs generalizing ys with
  | nil =>
      cases h
      cases hy
  | cons x xs ih =>
      rw [List.mapM_cons] at h
      obtain ⟨first, hx, h⟩ := (bind_eq_ok_iff _ _ _).1 h
      obtain ⟨more, hxs, h⟩ := (bind_eq_ok_iff _ _ _).1 h
      cases h
      rcases List.mem_cons.1 hy with rfl | hy
      · exact ⟨x, List.mem_cons_self, hx⟩
      · obtain ⟨found, hmem, hfound⟩ := ih hxs hy
        exact ⟨found, List.mem_cons_of_mem x hmem, hfound⟩

namespace Idna

/-- The characters of the labels of an ASCII name. -/
def isNameChar (c : Char) : Bool := c.isAlphanum || c == '-'

theorem isNameChar_of_toLower {c : Char} (h : isNameChar c.toLower = true) :
    isNameChar c = true :=
  toLower_induction (P := fun c d => isNameChar d = true → isNameChar c = true) (by decide)
    (fun _ _ h => h) c h

end Idna

open Idna

/-! ### Code points written in ASCII -/

namespace Punycode

theorem isNameChar_digitChar {d : Nat} (h : d < 36) : isNameChar (digitChar d) = true := by
  have hdigits : ∀ d : Fin 36, isNameChar (digitChar d) = true := by decide
  exact hdigits ⟨d, h⟩

theorem isNameChar_of_mem_digits {bias place n : Nat} {c : Char} (h : c ∈ digits bias place n) :
    isNameChar c = true := by
  have hlt := fun place => threshold_lt place bias
  fun_induction digits bias place n with
  | case1 place n t hsmall =>
      rw [List.mem_singleton.1 h]
      exact isNameChar_digitChar (Nat.lt_trans hsmall (hlt place))
  | case2 place n t hlarge ih =>
      rcases List.mem_cons.1 h with rfl | h
      · have hmod : (n - t) % (36 - t) < 36 - t := Nat.mod_lt _ (Nat.sub_pos_of_lt (hlt place))
        exact isNameChar_digitChar (by omega)
      · exact ih h

/-- Passing a place writes digits at most. -/
theorem isNameChar_of_mem_pass {w : Writer} (hw : ∀ c ∈ w.out, isNameChar c = true)
    (least n : Nat) : ∀ c ∈ (w.pass least n).out, isNameChar c = true := by
  unfold Writer.pass
  split
  · exact hw
  · split
    · intro c hc
      rcases List.mem_append.1 hc with hc | hc
      · exact hw c hc
      · exact isNameChar_of_mem_digits hc
    · exact hw

theorem isNameChar_of_mem_foldl_pass {w : Writer} (hw : ∀ c ∈ w.out, isNameChar c = true)
    (least : Nat) (label : List Nat) :
    ∀ c ∈ (label.foldl (Writer.pass least) w).out, isNameChar c = true := by
  induction label generalizing w with
  | nil => exact hw
  | cons n label ih => exact ih (isNameChar_of_mem_pass hw least n)

theorem isNameChar_of_mem_insert {w : Writer} (hw : ∀ c ∈ w.out, isNameChar c = true)
    (label : List Nat) (least : Nat) (others : List Nat) :
    ∀ c ∈ (w.insert label least others).out, isNameChar c = true := by
  induction others generalizing w least with
  | nil => exact hw
  | cons n others ih =>
      have hpassed : ∀ c ∈ ({ w with passed := w.passed + (n - least) * (w.count + 1) } : Writer).out,
          isNameChar c = true := hw
      refine ih ?_ (n + 1)
      exact isNameChar_of_mem_foldl_pass hpassed n label

/-- **Code points are written with letters, digits and hyphens**, if those that are ASCII are such.
-/
theorem isNameChar_of_mem_encode {label : List Nat}
    (h : ∀ n ∈ label, n < 0x80 → isNameChar (.ofNat n) = true) {c : Char} (hc : c ∈ encode label) :
    isNameChar c = true := by
  rw [encode, List.mem_append, List.mem_append] at hc
  rcases hc with (hc | hc) | hc
  · obtain ⟨n, hn, rfl⟩ := List.mem_map.1 hc
    obtain ⟨hmem, hlt⟩ := List.mem_filter.1 hn
    exact h n hmem (of_decide_eq_true hlt)
  · split at hc
    · cases hc
    · rw [List.mem_singleton.1 hc]
      rfl
  · exact isNameChar_of_mem_insert (fun _ h => by cases h) _ _ _ c hc

/-! ### Code points read from ASCII -/

theorem isNameChar_of_digitValue? {c : Char} (h : (digitValue? c).isSome = true) :
    isNameChar c = true := by
  have hlt : c.toNat < 128 := by
    unfold digitValue? at h
    split at h
    · next hc => exact Nat.lt_of_le_of_lt (UInt32.le_iff_toNat_le.1 hc.2) (by decide)
    · split at h
      · next hc => exact Nat.lt_of_le_of_lt (UInt32.le_iff_toNat_le.1 hc.2) (by decide)
      · split at h
        · next hc => exact Nat.lt_of_le_of_lt (UInt32.le_iff_toNat_le.1 hc.2) (by decide)
        · cases h
  exact Url.forall_ascii (P := fun c => (digitValue? c).isSome = true → isNameChar c = true)
    (by decide) hlt h

/-- A number is read from digits. -/
theorem exists_of_number? {bias place weight sum n : Nat} {cs rest : List Char}
    (h : number? bias place weight sum cs = some (n, rest)) :
    ∃ front, cs = front ++ rest ∧ ∀ c ∈ front, isNameChar c = true := by
  induction cs generalizing place weight sum with
  | nil => cases h
  | cons c cs ih =>
      unfold number? at h
      split at h
      · cases h
      · next d hd =>
        have hc : isNameChar c = true := isNameChar_of_digitValue? (by rw [hd]; rfl)
        simp only at h
        split at h
        · cases h
          exact ⟨[c], rfl, by simpa using hc⟩
        · obtain ⟨front, rfl, hfront⟩ := ih h
          exact ⟨c :: front, rfl, by simpa using ⟨hc, hfront⟩⟩

/-- Insertions are read from digits, and keep what is in place. -/
theorem of_insert? {fuel bias least next : Nat} {isFirst : Bool} {label out : List Nat}
    {cs : List Char} (h : insert? fuel bias least next isFirst label cs = some out) :
    (∀ c ∈ cs, isNameChar c = true) ∧ ∀ n ∈ label, n ∈ out := by
  fun_induction insert? fuel bias least next isFirst label cs with
  | case1 =>
      cases h
      exact ⟨by simp, fun _ hn => hn⟩
  | case2 => cases h
  | case3 => cases h
  | case4 => cases h
  | case5 bias least next isFirst label fuel cs hne n rest hnumber places least' hle place ih =>
      obtain ⟨front, rfl, hfront⟩ := exists_of_number? hnumber
      obtain ⟨hrest, hkept⟩ := ih h
      constructor
      · intro c hc
        rcases List.mem_append.1 hc with hc | hc
        · exact hfront c hc
        · exact hrest c hc
      · intro m hm
        have hplace : place ≤ label.length := Nat.le_of_lt_succ (Nat.mod_lt _ (Nat.succ_pos _))
        exact hkept m ((List.mem_insertIdx hplace).2 (.inr hm))

/-- **Code points are read from letters, digits and hyphens only**, if those that are ASCII are
such. -/
theorem isNameChar_of_decode? {cs : List Char} {label : List Nat} (h : decode? cs = some label)
    (hlabel : ∀ n ∈ label, n < 0x80 → isNameChar (.ofNat n) = true) {c : Char} (hc : c ∈ cs)
    (hascii : c.toNat < 0x80) : isNameChar c = true := by
  unfold decode? at h
  obtain ⟨hdigits, hbasic⟩ := of_insert? h
  have hparts := List.takeWhile_append_dropWhile (p := (· != '-')) (l := cs.reverse)
  have hmem : c ∈ cs.reverse := List.mem_reverse.2 hc
  rw [← hparts, List.mem_append] at hmem
  rcases hmem with hmem | hmem
  · exact hdigits c (List.mem_reverse.2 hmem)
  · -- what stands before the last hyphen is in place from the start
    by_cases hmark : c = '-'
    · rw [hmark]
      rfl
    · cases hdrop : cs.reverse.dropWhile (· != '-') with
      | nil =>
          rw [hdrop] at hmem
          cases hmem
      | cons first rest =>
          have hfirst : first = '-' := by
            have hhead := List.head?_dropWhile_not (· != '-') cs.reverse
            simpa [hdrop] using hhead
          rw [hdrop, List.mem_cons, hfirst] at hmem
          have hrest : c ∈ rest := hmem.resolve_left hmark
          have hplace : c ∈ ((first :: rest).reverse).dropLast := by
            rw [List.reverse_cons, List.dropLast_concat]
            exact List.mem_reverse.2 hrest
          have hin := hbasic c.toNat (List.mem_map_of_mem (by rw [hdrop]; exact hplace))
          have hchar := hlabel c.toNat hin hascii
          rwa [Char.ofNat_toNat] at hchar

end Punycode

/-! ### Labels and names -/

namespace Idna

/-- A code point that may stand in a label, if only between certain others. -/
def mayStand (n : Nat) : Bool :=
  permittedSpans.covers n || n == nonJoiner || n == joiner || signSpans.covers n

theorem mayStand_of_pointFault? {label before after : List Nat}
    (h : pointFault? label before after = none) : ∀ n ∈ after, mayStand n = true := by
  induction after generalizing before with
  | nil => exact fun _ h => by cases h
  | cons n after ih =>
      unfold pointFault? at h
      simp only at h
      split at h
      · cases h
      · next hfault =>
        intro m hm
        rcases List.mem_cons.1 hm with rfl | hm
        · unfold mayStand
          split at hfault
          · next hpermitted => simp [hpermitted]
          · split at hfault
            · next hjoiner => rcases hjoiner with rfl | rfl <;> simp
            · split at hfault
              · next hsign => simp [hsign]
              · cases hfault
        · exact ih h m hm

/-- Of the spans, only those that begin below a bound cover what is below it. -/
theorem covers_filter {spans : Spans} {n bound : Nat} (h : spans.covers n = true) (hn : n < bound) :
    Spans.covers (spans.filter (·.1 < bound)) n = true := by
  obtain ⟨span, hmem, hspan⟩ := List.any_eq_true.1 h
  have hfirst : span.1 ≤ n := of_decide_eq_true (Bool.and_eq_true_iff.1 hspan).1
  have hbound : decide (span.1 < bound) = true := decide_eq_true (Nat.lt_of_le_of_lt hfirst hn)
  exact List.any_eq_true.2 ⟨span, List.mem_filter.2 ⟨hmem, hbound⟩, hspan⟩

/-- The ASCII characters that may stand in a label. -/
theorem isNameChar_of_mayStand {n : Nat} (h : mayStand n = true) (hn : n < 0x80) :
    isNameChar (.ofNat n) = true := by
  have hspans : permittedSpans.filter (·.1 < 0x80) = [(0x2d, 0x2d), (0x30, 0x39), (0x61, 0x7a)] := by
    decide +kernel
  have hletters : ∀ n : Fin 0x80, Spans.covers [(0x2d, 0x2d), (0x30, 0x39), (0x61, 0x7a)] n = true →
      isNameChar (.ofNat n) = true := by decide
  have hothers : ∀ n : Fin 0x80, (n.val == nonJoiner || n.val == joiner || signSpans.covers n) =
      false := by decide
  have hcovers : permittedSpans.covers n = true := by
    have hnone := hothers ⟨n, hn⟩
    simp only [mayStand, Bool.or_assoc] at h hnone
    rwa [hnone, Bool.or_false] at h
  have hsmall := covers_filter hcovers hn
  rw [hspans] at hsmall
  exact hletters ⟨n, hn⟩ hsmall

theorem mayStand_of_checkedLabel {label out : List Nat} (h : checkedLabel label = .ok out) :
    out = label ∧ ∀ n ∈ label, n < 0x80 → isNameChar (.ofNat n) = true := by
  unfold checkedLabel at h
  cases hfault : labelFault? label with
  | some e =>
      rw [hfault] at h
      cases h
  | none =>
      rw [hfault] at h
      cases h
      refine ⟨rfl, ?_⟩
      intro n hn hlt
      have hpoints : pointFault? label [] label = none := by
        simp only [labelFault?] at hfault
        repeat' split at hfault
        all_goals first | assumption | cases hfault
      exact isNameChar_of_mayStand (mayStand_of_pointFault? hpoints n hn) hlt

theorem isNameChar_of_mem_asciiPrefix {c : Char} (h : c ∈ asciiPrefix) : isNameChar c = true := by
  have hall : ∀ c ∈ asciiPrefix, isNameChar c = true := List.all_eq_true.1 rfl
  exact hall c h

/-- The ASCII label that can be read is made of letters, digits and hyphens. -/
theorem isNameChar_of_labelToUnicode {cs : List Char} {label : List Nat}
    (h : labelToUnicode cs = .ok label) (hascii : ∀ c ∈ cs, c.toNat < 0x80) :
    ∀ c ∈ cs, isNameChar c = true := by
  have hlower : ∀ c ∈ cs.map Char.toLower, c.toNat < 0x80 := by
    intro c hc
    obtain ⟨d, hd, rfl⟩ := List.mem_map.1 hc
    exact toLower_induction (P := fun c d => c.toNat < 0x80 → d.toNat < 0x80) (by decide)
      (fun _ _ h => h) d (hascii d hd)
  suffices hsmall : ∀ c ∈ cs.map Char.toLower, isNameChar c = true from
    fun c hc => isNameChar_of_toLower (hsmall c.toLower (List.mem_map_of_mem hc))
  unfold labelToUnicode at h
  generalize cs.map Char.toLower = small at h hlower ⊢
  simp only at h
  split at h
  · next hprefix =>
    -- the ASCII form of another label: what it is read as is checked
    obtain ⟨digits, rfl⟩ := List.isPrefixOf_iff_prefix.1 hprefix
    rw [List.drop_left] at h
    split at h
    · cases h
    · split at h
      · cases h
      · cases hdecode : Punycode.decode? digits with
        | none =>
            rw [hdecode] at h
            cases h
        | some read =>
            rw [hdecode] at h
            have hread := (mayStand_of_checkedLabel h).2
            intro c hc
            rcases List.mem_append.1 hc with hc | hc
            · exact isNameChar_of_mem_asciiPrefix hc
            · exact Punycode.isNameChar_of_decode? hdecode hread hc
                (hlower c (List.mem_append_right _ hc))
  · intro c hc
    have hchar := (mayStand_of_checkedLabel h).2 c.toNat (List.mem_map_of_mem hc) (hlower c hc)
    rwa [Char.ofNat_toNat] at hchar

/-- The ASCII form of a label is made of letters, digits and hyphens. -/
theorem isNameChar_of_labelToAscii {cs ascii : List Char} (h : labelToAscii cs = .ok ascii) :
    ∀ c ∈ ascii, isNameChar c = true := by
  unfold labelToAscii at h
  by_cases hascii : cs.all (·.toNat < 0x80) = true
  · rw [if_pos hascii] at h
    obtain ⟨label, hread, h⟩ := (bind_eq_ok_iff _ _ _).1 h
    simp only [pure_bind] at h
    split at h
    · cases h
    · cases h
      exact isNameChar_of_labelToUnicode hread (by simpa using hascii)
  · rw [if_neg hascii] at h
    obtain ⟨label, hread, h⟩ := (bind_eq_ok_iff _ _ _).1 h
    obtain ⟨rfl, hlabel⟩ := mayStand_of_checkedLabel hread
    simp only [pure_bind] at h
    split at h
    · cases h
    · cases h
      intro c hc
      rcases List.mem_append.1 hc with hc | hc
      · exact isNameChar_of_mem_asciiPrefix hc
      · exact Punycode.isNameChar_of_mem_encode hlabel hc

/-- A name whose labels are brought into another form is made of their characters and of dots. -/
theorem mem_overLabels {form : List Char → Except NameError (List Char)} {P : Char → Prop}
    (hform : ∀ label out, form label = .ok out → ∀ c ∈ out, P c) {cs name : List Char}
    (h : overLabels form cs = .ok name) : ∀ c ∈ name, c = '.' ∨ P c := by
  have hlabels : ∀ {labels forms : List (List Char)}, labels.mapM form = .ok forms →
      ∀ c ∈ joinWithMark '.' forms, c = '.' ∨ P c := by
    intro labels forms hforms c hc
    refine (mem_joinWithMark hc).imp_right ?_
    rintro ⟨piece, hpiece, hmem⟩
    obtain ⟨label, -, hlabel⟩ := exists_of_mem_mapM hforms hpiece
    exact hform label piece hlabel c hmem
  unfold overLabels at h
  generalize splitAtMark '.' (cs.map plainDot) = labels at h
  split at h
  · cases h
  · simp only at h
    split at h
    · cases h
    · split at h
      · obtain ⟨forms, hforms, h⟩ := (bind_eq_ok_iff _ _ _).1 h
        cases h
        intro c hc
        rcases List.mem_append.1 hc with hc | hc
        · exact hlabels hforms c hc
        · exact .inl (List.mem_singleton.1 hc)
      · obtain ⟨forms, hforms, h⟩ := (bind_eq_ok_iff _ _ _).1 h
        cases h
        exact hlabels hforms

theorem toAscii_eq_ok {cs name : List Char} (h : toAscii cs = .ok name) :
    overLabels labelToAscii cs = .ok name ∧ name.length ≤ maxNameLength := by
  obtain ⟨found, hover, h⟩ := (bind_eq_ok_iff _ _ _).1 h
  by_cases hlong :
      found.length > (if found.getLast? = some '.' then maxNameLength else maxNameLength - 1)
  · rw [if_pos hlong] at h
    cases h
  · rw [if_neg hlong] at h
    cases h
    refine ⟨hover, ?_⟩
    split at hlong <;> omega

/-- **The ASCII form of a name is made of letters, digits, hyphens and dots.** -/
theorem isNameChar_of_mem_toAscii {cs name : List Char} (h : toAscii cs = .ok name) :
    ∀ c ∈ name, c = '.' ∨ isNameChar c = true :=
  mem_overLabels (fun _ _ hlabel => isNameChar_of_labelToAscii hlabel) (toAscii_eq_ok h).1

/-- **The ASCII form of a name is short.** -/
theorem length_toAscii_le {cs name : List Char} (h : toAscii cs = .ok name) :
    name.length ≤ maxNameLength :=
  (toAscii_eq_ok h).2

end Idna

end WorkspaceWatch
