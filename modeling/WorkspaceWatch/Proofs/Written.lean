/-
**What is written is read back.**

A JSON value is written without blanks, and its text is read in two steps.  The written form falls
into the tokens that the value is made of, and these tokens form the value again.  Texts need no
condition: every character has one written form, which is read as that character and does not end
the text.  Words do: a number has to be read back from its own word.  And a value must not be
nested deeper than a reader goes, where a container with nothing in it does not count.

Main definitions:

* `WorkspaceWatch.Json.tokens` — the tokens that a value is made of;
* `WorkspaceWatch.Json.Lexes` — characters fall into tokens, with no blanks between them;
* `WorkspaceWatch.Json.IsLegible`, `WorkspaceWatch.Json.level` — the words of a value are read
  back, and how deep its containers are nested.

Main results:

* `WorkspaceWatch.Json.textChar?_writtenChar`, `WorkspaceWatch.Json.scanText_written` — **every
  text is read back**;
* `WorkspaceWatch.Json.Lexes.scanTokens`, `WorkspaceWatch.Json.lexes_written` — a written value
  falls into its tokens;
* `WorkspaceWatch.Json.parseValue_tokens` — the tokens of a value form it;
* `WorkspaceWatch.Json.decode?_compact` — **a legible value is read back from its bytes**.
-/

import Mathlib.Tactic.IntervalCases
import WorkspaceWatch.Json.Parser
import WorkspaceWatch.Json.Printer

set_option autoImplicit false

namespace WorkspaceWatch

namespace Json

/-! ### Texts -/

theorem codeUnit?_hexText {n : Nat} (h : n < 0x20) (rest : List Char) :
    codeUnit? (hexText 4 n ++ rest) = some (n, rest) := by
  interval_cases n <;> rfl

/-- A control character is read back from its escaped code unit. -/
theorem codeEscape?_hexText {c : Char} (h : c.toNat < 0x20) (rest : List Char) :
    codeEscape? (hexText 4 c.toNat ++ rest) = some (c, rest) := by
  have hlow : isLowSurrogate c.toNat = false := by simp [isLowSurrogate]; omega
  have hhigh : isHighSurrogate c.toNat = false := by simp [isHighSurrogate]; omega
  simp only [codeEscape?, codeUnit?_hexText h, hlow, hhigh, Bool.false_eq_true, if_false,
    Char.ofNat_toNat]

theorem textChar?_of_plain {c : Char} (hc : c ≠ '\\') (h : ¬c.toNat < 0x20) (rest : List Char) :
    textChar? (c :: rest) = some (c, rest) := by
  rw [textChar?.eq_def]
  split <;> simp_all

/-- **Every character is read back from its written form.** -/
theorem textChar?_writtenChar (c : Char) (rest : List Char) :
    textChar? (writtenChar c ++ rest) = some (c, rest) := by
  fun_cases writtenChar c with
  | case8 _ _ _ _ _ _ _ _ hcontrol => exact codeEscape?_hexText hcontrol rest
  | case9 _ _ hbackslash _ _ _ _ _ hplain => exact textChar?_of_plain hbackslash hplain rest
  | _ => rfl

/-- The written form of a character does not end a text. -/
theorem exists_writtenChar_eq_cons (c : Char) :
    ∃ first more, writtenChar c = first :: more ∧ first ≠ '"' := by
  fun_cases writtenChar c with
  | case9 _ hquote => exact ⟨c, [], rfl, hquote⟩
  | _ => exact ⟨_, _, rfl, by decide⟩

theorem length_le_length_flatMap_writtenChar (cs : List Char) :
    cs.length ≤ (cs.flatMap writtenChar).length := by
  induction cs with
  | nil => simp
  | cons c cs ih =>
      obtain ⟨first, more, hc, -⟩ := exists_writtenChar_eq_cons c
      rw [List.flatMap_cons, hc, List.length_append, List.length_cons, List.length_cons]
      omega

theorem scanText_cons {cs rest : List Char} {c : Char} (hquote : ∀ more, cs ≠ '"' :: more)
    (hread : textChar? cs = some (c, rest)) (fuel : Nat) (done : List Char) :
    scanText (fuel + 1) done cs = scanText fuel (c :: done) rest := by
  rw [scanText, hread]
  exact hquote

/-- **Every text is read back from its written form**, up to the closing quote. -/
theorem scanText_written (cs done rest : List Char) (fuel : Nat) (h : cs.length < fuel) :
    scanText fuel done (cs.flatMap writtenChar ++ '"' :: rest) =
      some (.ofList (done.reverse ++ cs), rest) := by
  -- a step of the fuel for each character that was meant, not for each one it is written with
  induction cs generalizing done fuel with
  | nil =>
      obtain ⟨k, rfl⟩ : ∃ k, fuel = k + 1 := ⟨fuel - 1, by simp at h; omega⟩
      simp [scanText]
  | cons c cs ih =>
      obtain ⟨k, rfl⟩ : ∃ k, fuel = k + 1 := ⟨fuel - 1, by simp at h; omega⟩
      obtain ⟨first, more, hc, hfirst⟩ := exists_writtenChar_eq_cons c
      have hquote : ∀ tail, writtenChar c ++ (cs.flatMap writtenChar ++ '"' :: rest) ≠ '"' :: tail := by
        intro tail htail
        rw [hc] at htail
        exact hfirst (List.cons.inj htail).1
      rw [List.flatMap_cons, List.append_assoc,
        scanText_cons hquote (textChar?_writtenChar c _) k done, ih (c :: done) k (by simpa using h)]
      simp

/-! ### From characters to tokens -/

/-- Characters that do not go on with a word. -/
def EndsWord (cs : List Char) : Prop := ∀ c ∈ cs.head?, isWordChar c = false

/-- Characters fall into tokens, with no blanks between them. -/
inductive Lexes : List Char → List Token → Prop
  | nil : Lexes [] []
  | text (s : String) {cs : List Char} {ts : List Token} :
      Lexes cs ts → Lexes (writtenText s ++ cs) (.text s :: ts)
  | mark {c : Char} {t : Token} {cs : List Char} {ts : List Token} :
      mark? c = some t → Lexes cs ts → Lexes (c :: cs) (t :: ts)
  | word {w : List Char} {v : Json} {cs : List Char} {ts : List Token} :
      (∀ c ∈ w, isWordChar c = true) → word? w = some v → EndsWord cs → Lexes cs ts →
        Lexes (w ++ cs) (.atom v :: ts)

theorem not_isSpace_of_mark {c : Char} {t : Token} (h : mark? c = some t) :
    isSpace c = false ∧ c ≠ '"' := by
  revert h
  fun_cases mark? c with
  | case7 => exact nofun
  | _ => exact fun _ => ⟨by decide, by decide⟩

/-- A character of a word begins no other token. -/
theorem not_isSpace_of_isWordChar {c : Char} (h : isWordChar c = true) :
    isSpace c = false ∧ c ≠ '"' ∧ mark? c = none := by
  refine ⟨?_, ?_, ?_⟩
  · by_contra hspace
    simp only [isSpace, Bool.not_eq_false, Bool.or_eq_true, beq_iff_eq] at hspace
    rcases hspace with ((rfl | rfl) | rfl) | rfl <;> exact absurd h (by decide)
  · rintro rfl
    exact absurd h (by decide)
  · fun_cases mark? c with
    | case7 => rfl
    | _ => exact absurd h (by decide)

theorem takeWhile_word {w cs : List Char} (hw : ∀ c ∈ w, isWordChar c = true) (h : EndsWord cs) :
    (w ++ cs).takeWhile isWordChar = w ∧ (w ++ cs).dropWhile isWordChar = cs := by
  rw [List.takeWhile_append_of_pos hw, List.dropWhile_append_of_pos hw]
  cases cs with
  | nil => simp
  | cons c cs => simp [h c rfl]

/-- **Characters that fall into tokens are scanned as those.** -/
theorem Lexes.scanTokens {cs : List Char} {ts : List Token} (h : Lexes cs ts) (fuel : Nat)
    (done : List Token) (hfuel : cs.length < fuel) :
    scanTokens fuel done cs = some (done.reverse ++ ts) := by
  -- every token takes at least one character, so the fuel lasts as long as the characters do
  induction h generalizing fuel done with
  | nil =>
      obtain ⟨k, rfl⟩ : ∃ k, fuel = k + 1 := ⟨fuel - 1, by simp at hfuel; omega⟩
      simp [Json.scanTokens]
  | @text s cs ts _ ih =>
      obtain ⟨k, rfl⟩ : ∃ k, fuel = k + 1 := ⟨fuel - 1, by simp at hfuel; omega⟩
      have hwritten : writtenText s ++ cs = '"' :: (s.toList.flatMap writtenChar ++ '"' :: cs) := by
        simp [writtenText]
      have hlength := length_le_length_flatMap_writtenChar s.toList
      rw [hwritten] at hfuel ⊢
      simp only [List.length_cons, List.length_append] at hfuel
      have htext := scanText_written s.toList [] cs k (by omega)
      have hquote : isSpace '"' = false := by decide
      simp only [Json.scanTokens, hquote, htext, Bool.false_eq_true, if_false, if_true]
      rw [ih k _ (by omega)]
      simp
  | @mark c t cs ts hmark _ ih =>
      obtain ⟨k, rfl⟩ : ∃ k, fuel = k + 1 := ⟨fuel - 1, by simp at hfuel; omega⟩
      obtain ⟨hspace, hquote⟩ := not_isSpace_of_mark hmark
      simp only [Json.scanTokens, hspace, hquote, hmark, Bool.false_eq_true, if_false]
      rw [ih k _ (by simpa using hfuel)]
      simp
  | @word w v cs ts hw hv hends _ ih =>
      obtain ⟨k, rfl⟩ : ∃ k, fuel = k + 1 := ⟨fuel - 1, by simp at hfuel; omega⟩
      cases w with
      | nil => cases hv
      | cons c w =>
          obtain ⟨hspace, hquote, hmark⟩ := not_isSpace_of_isWordChar (hw c (by simp))
          obtain ⟨htake, hdrop⟩ := takeWhile_word hw hends
          rw [List.cons_append] at htake hdrop ⊢
          simp only [Json.scanTokens, hspace, hquote, hmark, htake, hdrop, hv, Bool.false_eq_true,
            if_false]
          rw [ih k _ (by simp at hfuel; omega)]
          simp

mutual

/-- The tokens that a value is made of. -/
def tokens : Json → List Token
  | text s => [.text s]
  | array [] => [.openArray, .closeArray]
  | array (x :: xs) => .openArray :: tokens x ++ itemTokens xs
  | object [] => [.openObject, .closeObject]
  | object ((k, x) :: xs) => .openObject :: .text k :: .colon :: tokens x ++ entryTokens xs
  | v => [.atom v]

/-- The tokens of the items after the first, and the closing bracket. -/
def itemTokens : List Json → List Token
  | [] => [.closeArray]
  | x :: xs => .comma :: tokens x ++ itemTokens xs

/-- The tokens of the entries after the first, and the closing brace. -/
def entryTokens : List (String × Json) → List Token
  | [] => [.closeObject]
  | (k, x) :: xs => .comma :: .text k :: .colon :: tokens x ++ entryTokens xs

end

/-- A word is read back as the value it was written for. -/
def ReadsBack (v : Json) : Prop := (∀ c ∈ written v, isWordChar c = true) ∧ word? (written v) = some v

mutual

/-- Every number in a value is read back from its word. -/
def IsLegible : Json → Prop
  | int n => ReadsBack (int n)
  | float x => ReadsBack (float x)
  | array xs => AreLegible xs
  | object xs => HasLegible xs
  | _ => True

/-- Every number in the items is read back from its word. -/
def AreLegible : List Json → Prop
  | [] => True
  | x :: xs => IsLegible x ∧ AreLegible xs

/-- Every number in the values of the entries is read back from its word. -/
def HasLegible : List (String × Json) → Prop
  | [] => True
  | (_, x) :: xs => IsLegible x ∧ HasLegible xs

end

theorem endsWord_writtenItems (xs : List Json) (cs : List Char) :
    EndsWord (writtenItems xs ++ cs) := by
  cases xs <;> simp [writtenItems, EndsWord] <;> decide

theorem endsWord_writtenEntries (xs : List (String × Json)) (cs : List Char) :
    EndsWord (writtenEntries xs ++ cs) := by
  cases xs <;> simp [writtenEntries, EndsWord] <;> decide

mutual

/-- **A legible value falls into its tokens**, before anything that does not go on with its last
word. -/
theorem lexes_written : (v : Json) → v.IsLegible → ∀ {cs ts}, EndsWord cs → Lexes cs ts →
    Lexes (written v ++ cs) (tokens v ++ ts)
  | null, _, _, _, hends, h => .word (List.all_eq_true.1 (by decide)) (by rfl) hends h
  | bool true, _, _, _, hends, h => .word (List.all_eq_true.1 (by decide)) (by rfl) hends h
  | bool false, _, _, _, hends, h => .word (List.all_eq_true.1 (by decide)) (by rfl) hends h
  | int _, hv, _, _, hends, h => .word hv.1 hv.2 hends h
  | float _, hv, _, _, hends, h => .word hv.1 hv.2 hends h
  | text s, _, _, _, _, h => .text s h
  | array [], _, _, _, _, h => .mark rfl (.mark rfl h)
  | array (x :: xs), hv, cs, ts, _, h => by
      have hitems := lexes_writtenItems xs hv.2 h
      have hx := lexes_written x hv.1 (endsWord_writtenItems xs cs) hitems
      simpa [written, tokens] using Lexes.mark rfl hx
  | object [], _, _, _, _, h => .mark rfl (.mark rfl h)
  | object ((k, x) :: xs), hv, cs, ts, _, h => by
      have hentries := lexes_writtenEntries xs hv.2 h
      have hx := lexes_written x hv.1 (endsWord_writtenEntries xs cs) hentries
      have hk := Lexes.text k (Lexes.mark (c := ':') rfl hx)
      simpa [written, tokens] using Lexes.mark rfl hk

theorem lexes_writtenItems : (xs : List Json) → AreLegible xs → ∀ {cs ts}, Lexes cs ts →
    Lexes (writtenItems xs ++ cs) (itemTokens xs ++ ts)
  | [], _, _, _, h => .mark rfl h
  | x :: xs, hv, cs, ts, h => by
      have hitems := lexes_writtenItems xs hv.2 h
      have hx := lexes_written x hv.1 (endsWord_writtenItems xs cs) hitems
      simpa [writtenItems, itemTokens] using Lexes.mark rfl hx

theorem lexes_writtenEntries : (xs : List (String × Json)) → HasLegible xs → ∀ {cs ts},
    Lexes cs ts → Lexes (writtenEntries xs ++ cs) (entryTokens xs ++ ts)
  | [], _, _, _, h => .mark rfl h
  | (k, x) :: xs, hv, cs, ts, h => by
      have hentries := lexes_writtenEntries xs hv.2 h
      have hx := lexes_written x hv.1 (endsWord_writtenEntries xs cs) hentries
      have hk := Lexes.text k (Lexes.mark (c := ':') rfl hx)
      simpa [writtenEntries, entryTokens] using Lexes.mark rfl hk

end

/-! ### From tokens to values -/

mutual

/-- How deep arrays and objects with something in them are nested. -/
def level : Json → Nat
  | array (x :: xs) => 1 + max (level x) (levelItems xs)
  | object ((_, x) :: xs) => 1 + max (level x) (levelEntries xs)
  | _ => 0

/-- The greatest level among the items. -/
def levelItems : List Json → Nat
  | [] => 0
  | x :: xs => max (level x) (levelItems xs)

/-- The greatest level among the values of the entries. -/
def levelEntries : List (String × Json) → Nat
  | [] => 0
  | (_, x) :: xs => max (level x) (levelEntries xs)

end

theorem level_object_le (xs : List (String × Json)) : level (object xs) ≤ 1 + levelEntries xs := by
  cases xs <;> simp [level, levelEntries]

theorem head_tokens_append (v : Json) (ts : List Token) :
    (∀ rest, tokens v ++ ts ≠ .closeArray :: rest) ∧ ∀ rest, tokens v ++ ts ≠ .closeObject :: rest := by
  fun_cases tokens v <;> simp

theorem parseValue_openArray {ts rest : List Token} {fuel depth : Nat} {items : List Json}
    (hts : ∀ more, ts ≠ .closeArray :: more)
    (h : parseItems fuel depth [] ts = some (items, rest)) :
    parseValue (fuel + 1) (depth + 1) (.openArray :: ts) = some (.array items, rest) := by
  rw [parseValue]
  · rw [h]
    rfl
  · exact hts

theorem parseValue_openObject {ts rest : List Token} {fuel depth : Nat}
    {entries : List (String × Json)} (hts : ∀ more, ts ≠ .closeObject :: more)
    (h : parseEntries fuel depth [] ts = some (entries, rest)) :
    parseValue (fuel + 1) (depth + 1) (.openObject :: ts) = some (.object entries, rest) := by
  rw [parseValue]
  · rw [h]
    rfl
  · exact hts

/-- A value is formed by its tokens, whatever follows them.  A container takes a step of the fuel
for itself and one for each item, so twice the number of tokens is enough. -/
def Forms (depth : Nat) (v : Json) : Prop :=
  ∀ fuel ts, 2 * (tokens v).length ≤ fuel → parseValue fuel depth (tokens v ++ ts) = some (v, ts)

mutual

/-- **The tokens of a value form it**, if it is not nested too deep. -/
theorem parseValue_tokens : (v : Json) → ∀ {depth}, v.level ≤ depth → Forms depth v
  | null, _, _, fuel + 1, _, _ => rfl
  | bool _, _, _, fuel + 1, _, _ => rfl
  | int _, _, _, fuel + 1, _, _ => rfl
  | float _, _, _, fuel + 1, _, _ => rfl
  | text _, _, _, fuel + 1, _, _ => rfl
  | array [], _, _, fuel + 1, _, _ => rfl
  | object [], _, _, fuel + 1, _, _ => rfl
  | array (x :: xs), depth, hlevel, fuel, ts, hfuel => by
      simp only [level] at hlevel
      obtain ⟨d, rfl⟩ : ∃ d, depth = d + 1 := ⟨depth - 1, by omega⟩
      simp only [tokens, List.cons_append, List.length_cons, List.length_append, List.append_assoc]
        at hfuel ⊢
      obtain ⟨k, rfl⟩ : ∃ k, fuel = k + 1 := ⟨fuel - 1, by omega⟩
      have hx : Forms d x := parseValue_tokens x (by omega)
      have hitems := parseItems_tokens xs (by omega) hx k [] ts (by omega)
      exact parseValue_openArray (head_tokens_append x _).1 hitems
  | object ((k, x) :: xs), depth, hlevel, fuel, ts, hfuel => by
      simp only [level] at hlevel
      obtain ⟨d, rfl⟩ : ∃ d, depth = d + 1 := ⟨depth - 1, by omega⟩
      simp only [tokens, List.cons_append, List.length_cons, List.length_append, List.append_assoc]
        at hfuel ⊢
      obtain ⟨n, rfl⟩ : ∃ n, fuel = n + 1 := ⟨fuel - 1, by omega⟩
      have hx : Forms d x := parseValue_tokens x (by omega)
      have hentries := parseEntries_tokens xs (by omega) k hx n [] ts (by omega)
      exact parseValue_openObject (by simp) hentries

theorem parseItems_tokens : (xs : List Json) → ∀ {depth}, levelItems xs ≤ depth → ∀ {x},
    Forms depth x → ∀ fuel done ts, 2 * ((tokens x).length + (itemTokens xs).length) ≤ fuel →
      parseItems fuel depth done (tokens x ++ (itemTokens xs ++ ts)) =
        some (done.reverse ++ x :: xs, ts)
  | [], depth, _, x, hx, fuel, done, ts, hfuel => by
      simp only [itemTokens, List.length_cons] at hfuel ⊢
      obtain ⟨k, rfl⟩ : ∃ k, fuel = k + 1 := ⟨fuel - 1, by omega⟩
      rw [parseItems, hx k _ (by omega)]
      simp
  | y :: ys, depth, hlevel, x, hx, fuel, done, ts, hfuel => by
      simp only [levelItems] at hlevel
      simp only [itemTokens, List.cons_append, List.length_cons, List.length_append,
        List.append_assoc] at hfuel ⊢
      obtain ⟨k, rfl⟩ : ∃ k, fuel = k + 1 := ⟨fuel - 1, by omega⟩
      have hy : Forms depth y := parseValue_tokens y (by omega)
      have hitems := parseItems_tokens ys (by omega) hy k (x :: done) ts (by omega)
      rw [parseItems, hx k _ (by omega)]
      simp only
      rw [hitems]
      simp

theorem parseEntries_tokens : (xs : List (String × Json)) → ∀ {depth}, levelEntries xs ≤ depth →
    ∀ (key : String) {x}, Forms depth x → ∀ fuel done ts,
      2 * ((tokens x).length + (entryTokens xs).length) ≤ fuel →
        parseEntries fuel depth done (.text key :: .colon :: (tokens x ++ (entryTokens xs ++ ts))) =
          some (done.reverse ++ (key, x) :: xs, ts)
  | [], depth, _, key, x, hx, fuel, done, ts, hfuel => by
      simp only [entryTokens, List.length_cons] at hfuel ⊢
      obtain ⟨k, rfl⟩ : ∃ k, fuel = k + 1 := ⟨fuel - 1, by omega⟩
      rw [parseEntries, hx k _ (by omega)]
      simp
  | (next, y) :: ys, depth, hlevel, key, x, hx, fuel, done, ts, hfuel => by
      simp only [levelEntries] at hlevel
      simp only [entryTokens, List.cons_append, List.length_cons, List.length_append,
        List.append_assoc] at hfuel ⊢
      obtain ⟨k, rfl⟩ : ∃ k, fuel = k + 1 := ⟨fuel - 1, by omega⟩
      have hy : Forms depth y := parseValue_tokens y (by omega)
      have hentries :=
        parseEntries_tokens ys (by omega) next hy k ((key, x) :: done) ts (by omega)
      rw [parseEntries, hx k _ (by omega)]
      simp only
      rw [hentries]
      simp

end

/-! ### From bytes to values -/

/-- **A legible value is read back from its written form**, if it is not nested too deep. -/
theorem parseWithin?_compact {v : Json} (hv : v.IsLegible) {depth : Nat} (hlevel : v.level ≤ depth) :
    parseWithin? depth (compact v) = some v := by
  have hlexes : Lexes (written v) (tokens v) := by
    have hends : EndsWord [] := by simp [EndsWord]
    simpa using lexes_written v hv hends .nil
  have htokens : tokens? (written v) = some (tokens v) := by
    simpa [tokens?] using hlexes.scanTokens _ [] (Nat.lt_succ_self _)
  have hforms := parseValue_tokens v hlevel (2 * (tokens v).length + 1) [] (by omega)
  rw [List.append_nil] at hforms
  simp [parseWithin?, compact, htokens, ofTokens?, hforms]

theorem fromUTF8?_toUTF8 (s : String) : String.fromUTF8? s.toUTF8 = some s := by
  unfold String.fromUTF8?
  rw [String.toUTF8_eq_toByteArray, dif_pos s.isValidUTF8]
  rfl

/-- **A legible value is read back from its bytes**, if it is not nested too deep. -/
theorem decode?_compact {v : Json} (hv : v.IsLegible) (hlevel : v.level ≤ maxDepth) :
    decode? (compact v).toUTF8 = some v := by
  rw [decode?, fromUTF8?_toUTF8, Option.bind_some, parse?, parseWithin?_compact hv hlevel]

end Json

end WorkspaceWatch
