/-
**Escapes and what they stand for.**

An escaped text is read back as the text that was escaped, unless that text had escapes in it
already: those are kept, and read for what they stand for.  So reading shortens a text exactly if it
has an escape, and then always does.

Main definitions:

* `WorkspaceWatch.hasEscape` — a text has an escape in it;
* `WorkspaceWatch.KeepsEscapes` — a class of characters that leaves the escapes of a text alone.

Main results:

* `WorkspaceWatch.percentBytes_percentEncode` — **escaping does not change the bytes that a text
  stands for**;
* `WorkspaceWatch.percentDecode_of_not_hasEscape` — **a text without escapes stands for itself**;
* `WorkspaceWatch.length_percentDecode_lt` — **a text with escapes stands for a shorter one**.
-/

import WorkspaceWatch.Proofs.Lossy

set_option autoImplicit false

namespace WorkspaceWatch

/-! ### Escapes in a text -/

/-- Whether an escape begins a text: a percent sign before two hexadecimal digits. -/
def startsEscape : List Char → Bool
  | '%' :: a :: b :: _ => (hexValue? [a, b]).isSome
  | _ => false

/-- Whether a text has an escape in it. -/
def hasEscape : List Char → Bool
  | [] => false
  | c :: cs => startsEscape (c :: cs) || hasEscape cs

theorem startsEscape_eq_true_iff (cs : List Char) :
    startsEscape cs = true ↔
      ∃ a b rest n, cs = '%' :: a :: b :: rest ∧ hexValue? [a, b] = some n := by
  constructor
  · intro h
    unfold startsEscape at h
    split at h
    · next a b rest =>
      obtain ⟨n, hn⟩ := Option.isSome_iff_exists.1 h
      exact ⟨a, b, rest, n, rfl, hn⟩
    · cases h
  · rintro ⟨a, b, rest, n, rfl, hn⟩
    simp [startsEscape, hn]

theorem startsEscape_cons_of_ne {c : Char} (h : c ≠ '%') (cs : List Char) :
    startsEscape (c :: cs) = false := by
  unfold startsEscape
  split
  · next heq => exact absurd (List.cons.inj heq).1 h
  · rfl

/-- The value of two digits needs both of them. -/
theorem hexValue?_pair (a b : Char) :
    hexValue? [a, b] =
      (hexDigitValue? a).bind fun x => (hexDigitValue? b).map fun y => x * 16 + y := by
  cases ha : hexDigitValue? a <;> cases hb : hexDigitValue? b <;> simp [hexValue?, ha, hb]

/-! ### The bytes that a text stands for -/

theorem percentBytes_escape {a b : Char} {n : Nat} (h : hexValue? [a, b] = some n)
    (rest : List Char) :
    percentBytes ('%' :: a :: b :: rest) = .ofNat n :: percentBytes rest := by
  rw [percentBytes, h]

/-- A character that begins no escape stands for itself. -/
theorem percentBytes_cons {c : Char} {cs : List Char} (h : startsEscape (c :: cs) = false) :
    percentBytes (c :: cs) = String.utf8EncodeChar c ++ percentBytes cs := by
  by_cases hc : c = '%'
  · subst hc
    match cs with
    | [] => rfl
    | [a] => rfl
    | a :: b :: rest =>
        have hnone : hexValue? [a, b] = none := by
          simpa [startsEscape] using h
        simp only [percentBytes, hnone]
        rfl
  · rw [percentBytes]
    intro a b rest heq
    exact absurd heq hc

/-- A text is an escape with a text behind it, or a character that begins none. -/
theorem escape_induction {P : List Char → Prop} (nil : P [])
    (escape : ∀ a b n rest, hexValue? [a, b] = some n → P rest → P ('%' :: a :: b :: rest))
    (cons : ∀ c cs, startsEscape (c :: cs) = false → P cs → P (c :: cs)) (cs : List Char) :
    P cs := by
  induction cs using percentBytes.induct with
  | case1 => exact nil
  | case2 a b rest n hn ih => exact escape a b n rest hn ih
  | case3 a b rest hn ih => exact cons _ _ (by simp [startsEscape, hn]) ih
  | case4 c rest hover ih =>
      refine cons c rest (Bool.eq_false_iff.2 ?_) ih
      intro h
      obtain ⟨a, b, rest', n, heq, -⟩ := (startsEscape_eq_true_iff _).1 h
      obtain ⟨hc, hrest⟩ := List.cons.inj heq
      exact hover a b rest' hc hrest

/-- The two digits of a byte stand for it. -/
theorem exists_hexByte_eq (b : UInt8) :
    ∃ x y, hexByte b = [x, y] ∧ hexValue? [x, y] = some b.toNat := by
  have h : ∀ n : Fin 256, (hexByte (.ofNat n)).length = 2 ∧
      hexValue? (hexByte (.ofNat n)) = some n.val := by
    decide +kernel
  obtain ⟨hlength, hvalue⟩ := h ⟨b.toNat, b.toNat_lt⟩
  rw [show UInt8.ofNat b.toNat = b from UInt8.ofNat_toNat] at hlength hvalue
  match hb : hexByte b with
  | [x, y] => exact ⟨x, y, rfl, hb ▸ hvalue⟩
  | [] | [_] | _ :: _ :: _ :: _ => simp [hb] at hlength

theorem percentBytes_percentByte_append (b : UInt8) (rest : List Char) :
    percentBytes (percentByte b ++ rest) = b :: percentBytes rest := by
  obtain ⟨x, y, hxy, hvalue⟩ := exists_hexByte_eq b
  simp only [percentByte, hxy, List.cons_append, List.nil_append]
  rw [percentBytes_escape hvalue, UInt8.ofNat_toNat]

/-- The escapes of a character stand for its bytes. -/
theorem percentBytes_percentChar_append (c : Char) (rest : List Char) :
    percentBytes (percentChar c ++ rest) = String.utf8EncodeChar c ++ percentBytes rest := by
  unfold percentChar
  induction String.utf8EncodeChar c with
  | nil => rfl
  | cons b bytes ih =>
      rw [List.flatMap_cons, List.append_assoc, percentBytes_percentByte_append, ih]
      rfl

/-! ### Escaping -/

/-- A class of characters that leaves the escapes of a text alone. -/
def KeepsEscapes (keep : Char → Bool) : Prop :=
  keep '%' = true ∧ ∀ c, (hexDigitValue? c).isSome → keep c = true

theorem percentEncode_cons (keep : Char → Bool) (c : Char) (cs : List Char) :
    percentEncode keep (c :: cs) =
      (if keep c then [c] else percentChar c) ++ percentEncode keep cs := rfl

theorem percentEncode_cons_of_keep {keep : Char → Bool} {c : Char} (h : keep c = true)
    (cs : List Char) : percentEncode keep (c :: cs) = c :: percentEncode keep cs := by
  rw [percentEncode_cons, if_pos h]
  rfl

/-- A text whose characters are all kept is not changed. -/
theorem percentEncode_of_keep {keep : Char → Bool} {cs : List Char} (h : ∀ c ∈ cs, keep c = true) :
    percentEncode keep cs = cs := by
  induction cs with
  | nil => rfl
  | cons c cs ih =>
      rw [percentEncode_cons_of_keep (h c (by simp)), ih fun d hd => h d (by simp [hd])]

theorem percentEncode_append (keep : Char → Bool) (cs ds : List Char) :
    percentEncode keep (cs ++ ds) = percentEncode keep cs ++ percentEncode keep ds :=
  List.flatMap_append

/-- The escapes of a character: a percent sign and hexadecimal digits. -/
theorem mem_percentChar {c x : Char} (h : x ∈ percentChar c) :
    x = '%' ∨ (hexDigitValue? x).isSome := by
  simp only [percentChar, List.mem_flatMap, percentByte, List.mem_cons] at h
  obtain ⟨b, -, rfl | hx⟩ := h
  · exact .inl rfl
  · obtain ⟨y, z, hyz, hvalue⟩ := exists_hexByte_eq b
    rw [hexValue?_pair] at hvalue
    rw [hyz] at hx
    obtain ⟨m, hy, hvalue⟩ := Option.bind_eq_some_iff.1 hvalue
    obtain ⟨n, hz, -⟩ := Option.map_eq_some_iff.1 hvalue
    simp only [List.mem_cons, List.not_mem_nil, or_false] at hx
    rcases hx with rfl | rfl
    · exact .inr (by simp [hy])
    · exact .inr (by simp [hz])

theorem exists_percentChar_eq_cons (c : Char) :
    ∃ x cs, percentChar c = '%' :: x :: cs := by
  obtain ⟨b, bytes, hc, -⟩ := exists_utf8EncodeChar_eq_cons c
  obtain ⟨x, y, hxy, -⟩ := exists_hexByte_eq b
  exact ⟨x, _, by rw [percentChar, hc, List.flatMap_cons, percentByte, hxy]; rfl⟩

/-- A text that is escaped without a percent sign was not changed. -/
theorem percentEncode_eq_self {keep : Char → Bool} {cs : List Char}
    (h : '%' ∉ percentEncode keep cs) : percentEncode keep cs = cs := by
  refine percentEncode_of_keep ?_
  intro c hc
  by_cases hk : keep c = true
  · exact hk
  · obtain ⟨x, ds, hx⟩ := exists_percentChar_eq_cons c
    refine absurd (List.mem_flatMap.2 ⟨c, hc, ?_⟩) h
    rw [if_neg hk, hx]
    exact List.mem_cons_self

/-- A character has four bytes at most, and an escape is three characters for one of them. -/
theorem length_percentChar_le (c : Char) : (percentChar c).length ≤ 12 := by
  have hbytes : ∀ bytes : List UInt8, (bytes.flatMap percentByte).length = 3 * bytes.length := by
    intro bytes
    induction bytes with
    | nil => rfl
    | cons b bytes ih =>
        obtain ⟨x, y, hxy, -⟩ := exists_hexByte_eq b
        rw [List.flatMap_cons, List.length_append, ih, percentByte, hxy]
        simp only [List.length_cons, List.length_nil]
        omega
  have hsize := Char.utf8Size_le_four c
  rw [percentChar, hbytes, String.length_utf8EncodeChar]
  omega

theorem length_percentEncode_le (keep : Char → Bool) (cs : List Char) :
    (percentEncode keep cs).length ≤ 12 * cs.length := by
  induction cs with
  | nil => exact Nat.le_refl 0
  | cons c cs ih =>
      have hchar : (if keep c then [c] else percentChar c).length ≤ 12 := by
        split
        · exact Nat.le_add_left 1 11
        · exact length_percentChar_le c
      rw [percentEncode_cons, List.length_append, List.length_cons]
      omega

section KeepsEscapes

variable {keep : Char → Bool} (hkeep : KeepsEscapes keep)
include hkeep

/-- All characters of an escaped text are kept. -/
theorem keep_of_mem_percentEncode {cs : List Char} {x : Char} (h : x ∈ percentEncode keep cs) :
    keep x = true := by
  simp only [percentEncode, List.mem_flatMap] at h
  obtain ⟨c, -, hx⟩ := h
  split at hx
  · next hc => exact List.mem_singleton.1 hx ▸ hc
  · rcases mem_percentChar hx with rfl | hx
    · exact hkeep.1
    · exact hkeep.2 x hx

omit hkeep in
theorem startsEscape_digits (a b : Char) (rest : List Char) :
    startsEscape ('%' :: a :: b :: rest) =
      ((hexDigitValue? a).isSome && (hexDigitValue? b).isSome) := by
  simp only [startsEscape, hexValue?_pair]
  cases hexDigitValue? a <;> cases hexDigitValue? b <;> rfl

theorem hexDigitValue?_of_not_keep {c : Char} (h : ¬keep c = true) : hexDigitValue? c = none := by
  cases hd : hexDigitValue? c with
  | none => rfl
  | some n => exact absurd (hkeep.2 c (by simp [hd])) h

/-- Whether a character begins an escape does not change when what follows it is escaped. -/
theorem startsEscape_cons_percentEncode (c : Char) (cs : List Char) :
    startsEscape (c :: percentEncode keep cs) = startsEscape (c :: cs) := by
  by_cases hc : c = '%'
  · subst hc
    have hpercent : hexDigitValue? '%' = none := by decide
    cases cs with
    | nil => rfl
    | cons a cs =>
        by_cases ha : keep a = true
        · rw [percentEncode_cons_of_keep ha]
          cases cs with
          | nil => rfl
          | cons b cs =>
              by_cases hb : keep b = true
              · rw [percentEncode_cons_of_keep hb]
                rfl
              · -- the second character is no digit, and neither is the sign it is escaped with
                obtain ⟨x, ds, hx⟩ := exists_percentChar_eq_cons b
                rw [percentEncode_cons, if_neg hb, hx, List.cons_append, startsEscape_digits,
                  startsEscape_digits, hexDigitValue?_of_not_keep hkeep hb, hpercent]
        · obtain ⟨x, ds, hx⟩ := exists_percentChar_eq_cons a
          rw [percentEncode_cons, if_neg ha, hx, List.cons_append, List.cons_append,
            startsEscape_digits, hpercent]
          cases cs with
          | nil => rfl
          | cons b cs =>
              rw [startsEscape_digits, hexDigitValue?_of_not_keep hkeep ha]
              rfl
  · rw [startsEscape_cons_of_ne hc, startsEscape_cons_of_ne hc]

/-- **Escaping does not change the bytes that a text stands for.** -/
theorem percentBytes_percentEncode (cs : List Char) :
    percentBytes (percentEncode keep cs) = percentBytes cs := by
  -- an escape is kept as it is, anything else is escaped by itself
  induction cs using escape_induction with
  | nil => rfl
  | escape a b n rest hn ih =>
      have hdigits := hn
      rw [hexValue?_pair] at hdigits
      obtain ⟨x, hx, hdigits⟩ := Option.bind_eq_some_iff.1 hdigits
      obtain ⟨y, hy, -⟩ := Option.map_eq_some_iff.1 hdigits
      rw [percentEncode_cons_of_keep hkeep.1, percentEncode_cons_of_keep (hkeep.2 a (by simp [hx])),
        percentEncode_cons_of_keep (hkeep.2 b (by simp [hy])), percentBytes_escape hn,
        percentBytes_escape hn, ih]
  | cons c cs hstart ih =>
      rw [percentBytes_cons hstart, ← ih]
      by_cases hc : keep c = true
      · rw [percentEncode_cons_of_keep hc]
        exact percentBytes_cons ((startsEscape_cons_percentEncode hkeep c cs).trans hstart)
      · rw [percentEncode_cons, if_neg hc]
        exact percentBytes_percentChar_append c _

/-- **An escaped text stands for what the text itself stands for.** -/
theorem percentDecode_percentEncode (cs : List Char) :
    percentDecode (percentEncode keep cs) = percentDecode cs := by
  rw [percentDecode, percentBytes_percentEncode hkeep, percentDecode]

end KeepsEscapes

/-! ### The text that a text stands for -/

/-- **A text without escapes stands for itself.** -/
theorem percentDecode_of_not_hasEscape {cs : List Char} (h : hasEscape cs = false) :
    percentDecode cs = cs := by
  induction cs with
  | nil => rfl
  | cons c cs ih =>
      rw [hasEscape, Bool.or_eq_false_iff] at h
      rw [percentDecode, percentBytes_cons h.1, decodeLossy_utf8EncodeChar_append]
      exact congrArg (c :: ·) (ih h.2)

/-- **A text stands for one that is not longer, and for a shorter one if it has an escape.**  In the
middle of a character it costs one replacement more. -/
theorem length_percentDecode_bounds (cs : List Char) :
    (percentDecode cs).length ≤ cs.length ∧
      (hasEscape cs = true → (percentDecode cs).length < cs.length) ∧
      ∀ bits spans, spans ≠ [] → AreTails spans →
        (decodeLossyFrom bits spans (percentBytes cs)).length ≤ cs.length + 1 := by
  -- an escape is three characters for one byte, anything else one character for itself
  induction cs using escape_induction with
  | nil =>
      refine ⟨Nat.le_refl _, nofun, ?_⟩
      intro bits spans hne _
      simp [percentBytes, decodeLossyFrom, hne]
  | escape a b n rest hn ih =>
      obtain ⟨hle, -, hbegun⟩ := ih
      obtain ⟨h, h'⟩ := length_decodeLossyFrom_cons_le hle hbegun (.ofNat n)
      rw [percentDecode, percentBytes_escape hn]
      simp only [List.length_cons]
      refine ⟨by omega, fun _ => by omega, ?_⟩
      intro bits spans hne htails
      have hbound := h' bits spans hne htails
      omega
  | cons c cs hstart ih =>
      obtain ⟨hle, hlt, -⟩ := ih
      have hdecode : percentDecode (c :: cs) = c :: percentDecode cs := by
        rw [percentDecode, percentBytes_cons hstart, decodeLossy_utf8EncodeChar_append,
          percentDecode]
      refine ⟨?_, ?_, ?_⟩
      · rw [hdecode]
        exact Nat.succ_le_succ hle
      · intro h
        rw [hasEscape, hstart, Bool.false_or] at h
        rw [hdecode]
        exact Nat.succ_lt_succ (hlt h)
      · intro bits spans hne htails
        rw [percentBytes_cons hstart, decodeLossyFrom_utf8EncodeChar_append bits hne htails]
        exact Nat.succ_le_succ (Nat.succ_le_succ hle)

theorem length_percentDecode_le (cs : List Char) : (percentDecode cs).length ≤ cs.length :=
  (length_percentDecode_bounds cs).1

/-- **A text with escapes stands for a shorter one.** -/
theorem length_percentDecode_lt {cs : List Char} (h : hasEscape cs = true) :
    (percentDecode cs).length < cs.length :=
  (length_percentDecode_bounds cs).2.1 h

end WorkspaceWatch
