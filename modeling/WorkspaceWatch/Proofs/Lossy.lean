/-
**Bytes read as text.**

Reading bytes as UTF-8 never fails: what is no character is replaced.  A character that is written
as its bytes is read again, whatever follows it; in the middle of another character it breaks that
one off, at the price of a replacement.

Main definitions:

* `WorkspaceWatch.AreTails` — what is still to come of a character continues one.

Main results:

* `WorkspaceWatch.decodeLossyFrom_of_within`, `WorkspaceWatch.decodeLossyFrom_of_broken` — how a
  reader goes on inside a character;
* `WorkspaceWatch.decodeLossy_utf8EncodeChar_append`,
  `WorkspaceWatch.decodeLossyFrom_utf8EncodeChar_append` — **a character is read from its bytes**.
-/

import WorkspaceWatch.Text.Percent

set_option autoImplicit false

namespace WorkspaceWatch

/-! ### One byte -/

section Byte

variable (bits : Nat) (spans : List ByteSpan) (low high b : UInt8) (rest : List UInt8)

theorem decodeLossy_of_lt (h : b < 0x80) :
    decodeLossy (b :: rest) = Char.ofNat b.toNat :: decodeLossy rest := by
  simp [decodeLossy, decodeLossyFrom, h]

/-- The first byte of several is above those that continue a character. -/
theorem le_of_leadByte? {b : UInt8} {bits : Nat} {spans : List ByteSpan}
    (h : leadByte? b = some (bits, spans)) : 0xc2 ≤ b.toNat := by
  rcases Nat.lt_or_ge b.toNat 0xc2 with hlt | hle
  · unfold leadByte? at h
    have h₁ : ¬(0xc2 ≤ b.toNat ∧ b.toNat ≤ 0xdf) := by omega
    have h₂ : ¬(0xe1 ≤ b.toNat ∧ b.toNat ≤ 0xef) := by omega
    have h₃ : ¬(0xf1 ≤ b.toNat ∧ b.toNat ≤ 0xf3) := by omega
    have hne : b.toNat ≠ 0xe0 ∧ b.toNat ≠ 0xed ∧ b.toNat ≠ 0xf0 ∧ b.toNat ≠ 0xf4 := by omega
    simp [h₁, h₂, h₃, hne] at h
  · exact hle

theorem decodeLossy_of_lead {bits : Nat} {spans : List ByteSpan}
    (h : leadByte? b = some (bits, spans)) :
    decodeLossy (b :: rest) = decodeLossyFrom bits spans rest := by
  have hlt : ¬b < 0x80 := by
    have hle := le_of_leadByte? h
    rw [UInt8.lt_iff_toNat_lt]
    exact fun hlt => absurd (Nat.lt_of_le_of_lt hle hlt) (by decide)
  simp [decodeLossy, decodeLossyFrom, hlt, h]

theorem decodeLossy_of_stray (h : ¬b < 0x80) (hlead : leadByte? b = none) :
    decodeLossy (b :: rest) = replacementChar :: decodeLossy rest := by
  simp [decodeLossy, decodeLossyFrom, h, hlead]

/-- A byte that may come next is taken; the last one completes the character. -/
theorem decodeLossyFrom_of_within (h : low ≤ b ∧ b ≤ high) :
    decodeLossyFrom bits ((low, high) :: spans) (b :: rest) =
      if spans = [] then Char.ofNat (bits * 64 + (b.toNat - 0x80)) :: decodeLossy rest
      else decodeLossyFrom (bits * 64 + (b.toNat - 0x80)) spans rest := by
  simp [decodeLossy, decodeLossyFrom, h]

/-- A byte that may not come next breaks the character off. -/
theorem decodeLossyFrom_of_broken (h : ¬(low ≤ b ∧ b ≤ high)) :
    decodeLossyFrom bits ((low, high) :: spans) (b :: rest) =
      replacementChar :: decodeLossy (b :: rest) := by
  simp only [decodeLossy, decodeLossyFrom, h, if_false]
  split
  · rfl
  · split <;> rfl

end Byte

/-! ### One character -/

/-- What is still to come of a character lies among the bytes that continue one. -/
def AreTails (spans : List ByteSpan) : Prop :=
  ∀ span ∈ spans, 0x80 ≤ span.1 ∧ span.2 ≤ 0xbf

theorem areTails_nil : AreTails [] := by
  intro span h
  cases h

theorem areTails_cons (span : ByteSpan) (spans : List ByteSpan) :
    AreTails (span :: spans) ↔ (0x80 ≤ span.1 ∧ span.2 ≤ 0xbf) ∧ AreTails spans :=
  List.forall_mem_cons

theorem leadByte?_two {b : UInt8} (h : 0xc2 ≤ b.toNat ∧ b.toNat ≤ 0xdf) :
    leadByte? b = some (b.toNat - 0xc0, [tailSpan]) := by
  simp only [leadByte?, h, and_self, if_true]

theorem leadByte?_three {b : UInt8} (h : 0xe0 ≤ b.toNat ∧ b.toNat ≤ 0xef) :
    leadByte? b = some (b.toNat - 0xe0,
      [(if b.toNat = 0xe0 then 0xa0 else 0x80, if b.toNat = 0xed then 0x9f else 0xbf), tailSpan]) := by
  have htwo : ¬(0xc2 ≤ b.toNat ∧ b.toNat ≤ 0xdf) := by omega
  simp only [leadByte?, htwo, if_false]
  by_cases h₀ : b.toNat = 0xe0
  · simp [h₀]
  · by_cases hd : b.toNat = 0xed
    · simp [hd]
    · have hrest : 0xe1 ≤ b.toNat ∧ b.toNat ≤ 0xef := by omega
      simp [h₀, hd, hrest, tailSpan]

theorem leadByte?_four {b : UInt8} (h : 0xf0 ≤ b.toNat ∧ b.toNat ≤ 0xf4) :
    leadByte? b = some (b.toNat - 0xf0,
      [(if b.toNat = 0xf0 then 0x90 else 0x80, if b.toNat = 0xf4 then 0x8f else 0xbf), tailSpan,
        tailSpan]) := by
  have htwo : ¬(0xc2 ≤ b.toNat ∧ b.toNat ≤ 0xdf) := by omega
  have hthree : ¬(0xe1 ≤ b.toNat ∧ b.toNat ≤ 0xef) := by omega
  have he : b.toNat ≠ 0xe0 := by omega
  have hd : b.toNat ≠ 0xed := by omega
  simp only [leadByte?, htwo, hthree, he, hd, if_false]
  by_cases h₀ : b.toNat = 0xf0
  · simp [h₀]
  · by_cases h₄ : b.toNat = 0xf4
    · simp [h₄]
    · have hrest : 0xf1 ≤ b.toNat ∧ b.toNat ≤ 0xf3 := by omega
      simp [h₀, h₄, hrest, tailSpan]

theorem decodeLossyFrom_tail (bits : Nat) (spans : List ByteSpan) {b : UInt8}
    (h : 0x80 ≤ b.toNat ∧ b.toNat ≤ 0xbf) (rest : List UInt8) :
    decodeLossyFrom bits (tailSpan :: spans) (b :: rest) =
      if spans = [] then Char.ofNat (bits * 64 + (b.toNat - 0x80)) :: decodeLossy rest
      else decodeLossyFrom (bits * 64 + (b.toNat - 0x80)) spans rest := by
  refine decodeLossyFrom_of_within bits spans 0x80 0xbf b rest ?_
  simp only [UInt8.le_iff_toNat_le]
  exact h

theorem toNat_byte {n : Nat} (h : n < 256) : (UInt8.ofNat n).toNat = n :=
  UInt8.toNat_ofNat_of_lt h

theorem decodeLossy_two {v : Nat} (h : 0x7f < v ∧ v ≤ 0x7ff) (rest : List UInt8) :
    decodeLossy (.ofNat (v / 64 % 0x20 + 0xc0) :: .ofNat (v % 0x40 + 0x80) :: rest) =
      Char.ofNat v :: decodeLossy rest := by
  have h₀ := toNat_byte (n := v / 64 % 0x20 + 0xc0) (by omega)
  have h₁ := toNat_byte (n := v % 0x40 + 0x80) (by omega)
  have hlead := leadByte?_two (b := .ofNat (v / 64 % 0x20 + 0xc0)) (by omega)
  have hbits : (v / 64 % 0x20 + 0xc0 - 0xc0) * 64 + (v % 0x40 + 0x80 - 0x80) = v := by omega
  rw [decodeLossy_of_lead _ _ hlead, decodeLossyFrom_tail _ _ (by omega), if_pos rfl, h₀, h₁, hbits]

/-- Three bytes; the second one may not say less than two bytes could, nor half of a pair. -/
theorem decodeLossy_three {v : Nat} (h : 0x7ff < v ∧ v ≤ 0xffff) (hpair : v < 0xd800 ∨ 0xdfff < v)
    (rest : List UInt8) :
    decodeLossy (.ofNat (v / 4096 % 0x10 + 0xe0) :: .ofNat (v / 64 % 0x40 + 0x80) ::
      .ofNat (v % 0x40 + 0x80) :: rest) = Char.ofNat v :: decodeLossy rest := by
  have h₀ := toNat_byte (n := v / 4096 % 0x10 + 0xe0) (by omega)
  have h₁ := toNat_byte (n := v / 64 % 0x40 + 0x80) (by omega)
  have h₂ := toNat_byte (n := v % 0x40 + 0x80) (by omega)
  have hlead := leadByte?_three (b := .ofNat (v / 4096 % 0x10 + 0xe0)) (by omega)
  have hbits : ((v / 4096 % 0x10 + 0xe0 - 0xe0) * 64 + (v / 64 % 0x40 + 0x80 - 0x80)) * 64 +
      (v % 0x40 + 0x80 - 0x80) = v := by omega
  rw [decodeLossy_of_lead _ _ hlead, decodeLossyFrom_of_within _ _ _ _ _ _ ?_, if_neg (by simp),
    decodeLossyFrom_tail _ _ (by omega), if_pos rfl, h₀, h₁, h₂, hbits]
  rw [UInt8.le_iff_toNat_le, UInt8.le_iff_toNat_le, h₀, h₁]
  constructor
  · split
    · exact show 0xa0 ≤ _ by omega
    · exact show 0x80 ≤ _ by omega
  · split
    · exact show _ ≤ 0x9f by omega
    · exact show _ ≤ 0xbf by omega

/-- Four bytes; the second one may not say less than three bytes could, nor more than there is. -/
theorem decodeLossy_four {v : Nat} (h : 0xffff < v ∧ v < 0x110000) (rest : List UInt8) :
    decodeLossy (.ofNat (v / 262144 % 0x08 + 0xf0) :: .ofNat (v / 4096 % 0x40 + 0x80) ::
      .ofNat (v / 64 % 0x40 + 0x80) :: .ofNat (v % 0x40 + 0x80) :: rest) =
        Char.ofNat v :: decodeLossy rest := by
  have h₀ := toNat_byte (n := v / 262144 % 0x08 + 0xf0) (by omega)
  have h₁ := toNat_byte (n := v / 4096 % 0x40 + 0x80) (by omega)
  have h₂ := toNat_byte (n := v / 64 % 0x40 + 0x80) (by omega)
  have h₃ := toNat_byte (n := v % 0x40 + 0x80) (by omega)
  have hlead := leadByte?_four (b := .ofNat (v / 262144 % 0x08 + 0xf0)) (by omega)
  have hbits : (((v / 262144 % 0x08 + 0xf0 - 0xf0) * 64 + (v / 4096 % 0x40 + 0x80 - 0x80)) * 64 +
      (v / 64 % 0x40 + 0x80 - 0x80)) * 64 + (v % 0x40 + 0x80 - 0x80) = v := by omega
  rw [decodeLossy_of_lead _ _ hlead, decodeLossyFrom_of_within _ _ _ _ _ _ ?_, if_neg (by simp),
    decodeLossyFrom_tail _ _ (by omega), if_neg (by simp), decodeLossyFrom_tail _ _ (by omega),
    if_pos rfl, h₀, h₁, h₂, h₃, hbits]
  rw [UInt8.le_iff_toNat_le, UInt8.le_iff_toNat_le, h₀, h₁]
  constructor
  · split
    · exact show 0x90 ≤ _ by omega
    · exact show 0x80 ≤ _ by omega
  · split
    · exact show _ ≤ 0x8f by omega
    · exact show _ ≤ 0xbf by omega

/-- **A character is read from its bytes**, whatever follows them. -/
theorem decodeLossy_utf8EncodeChar_append (c : Char) (rest : List UInt8) :
    decodeLossy (String.utf8EncodeChar c ++ rest) = c :: decodeLossy rest := by
  -- by the number of bytes; that the number is one of a character bounds the second byte
  have hofNat : Char.ofNat c.val.toNat = c := Char.ofNat_toNat c
  have hvalid : c.val.toNat < 0xd800 ∨ 0xdfff < c.val.toNat ∧ c.val.toNat < 0x110000 := c.valid
  unfold String.utf8EncodeChar
  generalize c.val.toNat = v at hofNat hvalid
  simp only
  split
  · have hb := toNat_byte (n := v) (by omega)
    have hlt : UInt8.ofNat v < 0x80 := by
      rw [UInt8.lt_iff_toNat_lt, hb]
      exact Nat.lt_succ_of_le ‹_›
    rw [List.singleton_append, decodeLossy_of_lt _ _ hlt, hb, hofNat]
  · split
    · exact (decodeLossy_two (by omega) rest).trans (by rw [hofNat])
    · split
      · exact (decodeLossy_three (by omega) (by omega) rest).trans (by rw [hofNat])
      · exact (decodeLossy_four (by omega) rest).trans (by rw [hofNat])

/-- The first byte of a character is none that continues one. -/
theorem exists_utf8EncodeChar_eq_cons (c : Char) :
    ∃ b bytes, String.utf8EncodeChar c = b :: bytes ∧ (b.toNat < 0x80 ∨ 0xc0 ≤ b.toNat) := by
  unfold String.utf8EncodeChar
  generalize c.val.toNat = v
  simp only
  split
  · exact ⟨_, _, rfl, .inl (by rw [toNat_byte (by omega)]; omega)⟩
  · split
    · exact ⟨_, _, rfl, .inr (by rw [toNat_byte (by omega)]; omega)⟩
    · split
      · exact ⟨_, _, rfl, .inr (by rw [toNat_byte (by omega)]; omega)⟩
      · exact ⟨_, _, rfl, .inr (by rw [toNat_byte (by omega)]; omega)⟩

/-- **In the middle of another character, a character is read behind a replacement.** -/
theorem decodeLossyFrom_utf8EncodeChar_append (bits : Nat) {spans : List ByteSpan}
    (hne : spans ≠ []) (htails : AreTails spans) (c : Char) (rest : List UInt8) :
    decodeLossyFrom bits spans (String.utf8EncodeChar c ++ rest) =
      replacementChar :: c :: decodeLossy rest := by
  obtain ⟨b, bytes, hc, hb⟩ := exists_utf8EncodeChar_eq_cons c
  rw [← decodeLossy_utf8EncodeChar_append, hc]
  cases spans with
  | nil => exact absurd rfl hne
  | cons span spans =>
      obtain ⟨hlow, hhigh⟩ := htails span (by simp)
      refine decodeLossyFrom_of_broken bits spans span.1 span.2 b _ ?_
      simp only [UInt8.le_iff_toNat_le] at hlow hhigh ⊢
      have h₁ : (0x80 : UInt8).toNat = 0x80 := rfl
      have h₂ : (0xbf : UInt8).toNat = 0xbf := rfl
      omega

/-! ### The length of what is read -/

/-- Every first byte leaves something to come. -/
theorem areTails_of_leadByte? {b : UInt8} {bits : Nat} {spans : List ByteSpan}
    (h : leadByte? b = some (bits, spans)) : spans ≠ [] ∧ AreTails spans := by
  unfold leadByte? at h
  simp only at h
  repeat' split at h
  all_goals first
    | obtain ⟨-, rfl⟩ := Prod.mk.inj (Option.some.inj h)
      refine ⟨by simp, ?_⟩
      simp only [areTails_cons, areTails_nil, and_true, tailSpan]
      decide
    | cases h

/-- One more byte is at most one more character, and a replacement if it breaks one off. -/
theorem length_decodeLossyFrom_cons_le {n : Nat} {bytes : List UInt8}
    (hfresh : (decodeLossy bytes).length ≤ n)
    (hbegun : ∀ bits spans, spans ≠ [] → AreTails spans →
      (decodeLossyFrom bits spans bytes).length ≤ n + 1) (b : UInt8) :
    (decodeLossy (b :: bytes)).length ≤ n + 1 ∧
      ∀ bits spans, spans ≠ [] → AreTails spans →
        (decodeLossyFrom bits spans (b :: bytes)).length ≤ n + 2 := by
  have hfirst : (decodeLossy (b :: bytes)).length ≤ n + 1 := by
    by_cases hb : b < 0x80
    · rw [decodeLossy_of_lt _ _ hb]
      exact Nat.succ_le_succ hfresh
    · cases hlead : leadByte? b with
      | none =>
          rw [decodeLossy_of_stray _ _ hb hlead]
          exact Nat.succ_le_succ hfresh
      | some lead =>
          obtain ⟨hne, htails⟩ := areTails_of_leadByte? hlead
          rw [decodeLossy_of_lead _ _ hlead]
          exact hbegun _ _ hne htails
  refine ⟨hfirst, ?_⟩
  intro bits spans hne htails
  cases spans with
  | nil => exact absurd rfl hne
  | cons span spans =>
      by_cases hin : span.1 ≤ b ∧ b ≤ span.2
      · rw [decodeLossyFrom_of_within bits spans span.1 span.2 b bytes hin]
        split
        · simp only [List.length_cons]
          omega
        · next hmore =>
          exact Nat.le_succ_of_le (hbegun _ _ hmore fun s hs => htails s (by simp [hs]))
      · rw [decodeLossyFrom_of_broken bits spans span.1 span.2 b bytes hin]
        exact Nat.succ_le_succ hfirst

end WorkspaceWatch
