/-
**The states that tasks are asked for in.**

The states are put together with commas, and the text becomes the one parameter of the query, its
special characters escaped as in a form.  Whoever reads the query as a form and cuts the parameter
at its commas has the states again.  The query of a request for tasks is always made in this way:
where no states are asked for there is none, whatever stood behind a question mark in the base URL
or in the identifier.

Main definitions:

* `WorkspaceWatch.formDecode` — the text that the value of a form field stands for;
* `WorkspaceWatch.formFields` — the names and values in a query;
* `WorkspaceWatch.stateWord` — the word for a state, which may be any text.

Main results:

* `WorkspaceWatch.formDecode_formEncode` — **the value of a form field stands for the text it was
  made of**;
* `WorkspaceWatch.Client.address_query` — **a query that an order decides about is the URL's
  query**;
* `WorkspaceWatch.Client.listTasks_asks_for_states` — **the states are found again in the query**.
-/

import WorkspaceWatch.Proofs.Exchange
import WorkspaceWatch.Proofs.Target

set_option autoImplicit false

namespace WorkspaceWatch

/-! ### Form fields -/

/-- A character of a form field, the plus sign standing for the space. -/
def unplus (c : Char) : Char := if c = '+' then ' ' else c

/-- The text that the value of a form field stands for. -/
def formDecode (cs : List Char) : List Char := percentDecode (cs.map unplus)

/-- The name and the value of a form field, parted by the first equals sign. -/
def formField (cs : List Char) : List Char × List Char :=
  (formDecode (cs.takeWhile (· != '=')), formDecode ((cs.dropWhile (· != '=')).drop 1))

/-- The names and the values in a query, parted by ampersands. -/
def formFields (query : List Char) : List (List Char × List Char) :=
  (splitAtMark '&' query).map formField

theorem isUnreserved_of_hexDigit {c : Char} (h : (hexDigitValue? c).isSome = true) :
    isUnreserved c = true :=
  Url.forall_ascii (P := fun c => (hexDigitValue? c).isSome = true → isUnreserved c = true)
    (by decide) (Url.toNat_lt_of_hexDigit h) h

theorem formEncode_cons (c : Char) (cs : List Char) :
    formEncode (c :: cs) =
      (if c = ' ' then ['+'] else if isUnreserved c then [c] else percentChar c) ++
        formEncode cs := by
  rw [formEncode, List.flatMap_cons, formEncode]

/-- The characters of the value of a form field. -/
theorem mem_formEncode {cs : List Char} {x : Char} (h : x ∈ formEncode cs) :
    x = '+' ∨ x = '%' ∨ isUnreserved x = true := by
  obtain ⟨c, -, hx⟩ := List.mem_flatMap.1 h
  split at hx
  · exact .inl (List.mem_singleton.1 hx)
  · split at hx
    · next hkeep =>
      rw [List.mem_singleton.1 hx]
      exact .inr (.inr hkeep)
    · rcases mem_percentChar hx with hpercent | hdigit
      · exact .inr (.inl hpercent)
      · exact .inr (.inr (isUnreserved_of_hexDigit hdigit))

/-- They can stand in a query, and none of them is a mark in it. -/
theorem keepsQuery_of_mem_formEncode {cs : List Char} {x : Char} (h : x ∈ formEncode cs) :
    Url.keepsQuery x = true ∧ x ≠ '&' ∧ x ≠ '=' := by
  rcases mem_formEncode h with rfl | rfl | hkeep
  · decide
  · decide
  · exact Url.forall_isUnreserved (P := fun x => Url.keepsQuery x = true ∧ x ≠ '&' ∧ x ≠ '=')
      (by decide) hkeep

theorem map_unplus_percentChar (c : Char) : (percentChar c).map unplus = percentChar c := by
  refine (List.map_congr_left ?_).trans (List.map_id _)
  intro x hx
  have hplus : x ≠ '+' := by
    rintro rfl
    rcases mem_percentChar hx with heq | hdigit
    · exact absurd heq (by decide)
    · exact absurd hdigit (by decide)
  exact if_neg hplus

/-- The value of a form field stands for the bytes of the text. -/
theorem percentBytes_formEncode (cs : List Char) :
    percentBytes ((formEncode cs).map unplus) = cs.flatMap String.utf8EncodeChar := by
  induction cs with
  | nil => rfl
  | cons c cs ih =>
      rw [formEncode_cons, List.map_append, List.flatMap_cons, ← ih]
      by_cases hspace : c = ' '
      · subst hspace
        exact percentBytes_cons (startsEscape_cons_of_ne (by decide) _)
      · rw [if_neg hspace]
        by_cases hkeep : isUnreserved c = true
        · have hplain : unplus c = c ∧ c ≠ '%' :=
            Url.forall_isUnreserved (P := fun c => unplus c = c ∧ c ≠ '%') (by decide) hkeep
          rw [if_pos hkeep, List.map_singleton, hplain.1]
          exact percentBytes_cons (startsEscape_cons_of_ne hplain.2 _)
        · rw [if_neg hkeep, map_unplus_percentChar]
          exact percentBytes_percentChar_append c _

theorem decodeLossy_flatMap (cs : List Char) :
    decodeLossy (cs.flatMap String.utf8EncodeChar) = cs := by
  induction cs with
  | nil => rfl
  | cons c cs ih => rw [List.flatMap_cons, decodeLossy_utf8EncodeChar_append, ih]

/-- **The value of a form field stands for the text it was made of.** -/
theorem formDecode_formEncode (cs : List Char) : formDecode (formEncode cs) = cs := by
  rw [formDecode, percentDecode, percentBytes_formEncode, decodeLossy_flatMap]

/-- A query of one field has that field and no other. -/
theorem formFields_formEncode (name value : List Char) :
    formFields (formEncode name ++ '=' :: formEncode value) = [(name, value)] := by
  have hmark : '&' ∉ formEncode name ++ '=' :: formEncode value := by
    intro hmem
    rcases List.mem_append.1 hmem with hmem | hmem
    · exact (keepsQuery_of_mem_formEncode hmem).2.1 rfl
    · rcases List.mem_cons.1 hmem with heq | hmem
      · exact absurd heq (by decide)
      · exact (keepsQuery_of_mem_formEncode hmem).2.1 rfl
  have hequals : '=' ∉ formEncode name := by
    intro hmem
    exact (keepsQuery_of_mem_formEncode hmem).2.2 rfl
  obtain ⟨htake, hdrop⟩ := takeWhile_append_cons hequals (formEncode value)
  rw [formFields, splitAtMark_of_notMem '&' _ hmark, List.map_singleton, formField, htake, hdrop,
    List.drop_one, List.tail_cons, formDecode_formEncode, formDecode_formEncode]

theorem keepsQuery_of_mem_field {name value : List Char} {x : Char}
    (h : x ∈ formEncode name ++ '=' :: formEncode value) : Url.keepsQuery x = true := by
  rcases List.mem_append.1 h with hmem | hmem
  · exact (keepsQuery_of_mem_formEncode hmem).1
  · rcases List.mem_cons.1 hmem with rfl | hmem
    · decide
    · exact (keepsQuery_of_mem_formEncode hmem).1

/-! ### States -/

/-- The word for a state: one that is known, or any text. -/
def stateWord : TaskStatus ⊕ String → String
  | .inl status => status.text
  | .inr word => word

theorem notMem_text (status : TaskStatus) : ',' ∉ status.text.toList := by
  cases status <;> decide

theorem toList_intercalate_comma (words : List String) :
    (",".intercalate words).toList = joinWithMark ',' (words.map String.toList) := by
  induction words with
  | nil => rfl
  | cons word words ih =>
      cases words with
      | nil => rw [String.intercalate_singleton]; rfl
      | cons next more =>
          rw [String.intercalate_cons_cons, String.toList_append, String.toList_append, ih,
            List.append_assoc]
          rfl

/-- Words without commas are found again between the commas. -/
theorem splitAtMark_intercalate {words : List String} (hne : words ≠ [])
    (h : ∀ word ∈ words, ',' ∉ word.toList) :
    splitAtMark ',' (",".intercalate words).toList = words.map String.toList := by
  rw [toList_intercalate_comma]
  refine splitAtMark_joinWithMark ',' _ ?_ ?_
  · simpa using hne
  · intro piece hpiece
    obtain ⟨word, hword, rfl⟩ := List.mem_map.1 hpiece
    exact h word hword

namespace Client

/-- **A query that an order decides about is the URL's query**, its special characters escaped. -/
theorem address_query {c : Client} {o : Order} {query : Option (List Char)}
    (ho : o.query? = some query) {url : Url} (h : c.address o = .ok url) :
    url.query = query.map (percentEncode Url.keepsQuery) := by
  obtain ⟨b, own, w, -, -, -, -, hsome⟩ := address_eq_ok h
  have hw := hsome query ho
  simp only [Url.withQuery, Url.rebuild] at hw
  split at hw
  · cases hw
  · exact (Url.ofParts_eq_ok hw).2.2

/-- **The states that tasks are asked for in are found again in the query.**  If there are any, it
has one parameter, whose value gives them back when it is cut at its commas: all of them, in order,
and as often as they were given.  If there are none, neither is a query. -/
theorem listTasks_asks_for_states (c : Client) (workspaceId : String)
    (states : List (TaskStatus ⊕ String)) (h : ∀ word, .inr word ∈ states → ',' ∉ word.toList)
    (reactions : List Reaction) {request : Request}
    (hsent : (c.run (Call.listTasks workspaceId (states.map stateWord)) reactions).request? =
      some request) :
    (states ≠ [] → ∃ query value, request.url.query = some query ∧
      formFields query = [("statuses".toList, value)] ∧
      splitAtMark ',' value = states.map fun state => (stateWord state).toList) ∧
    (states = [] → request.url.query = none) := by
  obtain ⟨haddress, -, -⟩ := request_eq_ok (request_of_mem_run hsent)
  have hquery := address_query rfl haddress
  constructor
  · intro hne
    have hwords : ∀ word ∈ states.map stateWord, ',' ∉ word.toList := by
      intro word hword
      obtain ⟨state, hstate, rfl⟩ := List.mem_map.1 hword
      cases state with
      | inl status => exact notMem_text status
      | inr word => exact h word hstate
    have hmap : states.map stateWord ≠ [] := by simpa using hne
    have hasked : Call.statusQuery (states.map stateWord) = some (formEncode "statuses".toList ++
        '=' :: formEncode (",".intercalate (states.map stateWord)).toList) := by
      rw [Call.statusQuery, if_neg (by simpa using hne)]
      rfl
    refine ⟨_, (",".intercalate (states.map stateWord)).toList, ?_, formFields_formEncode _ _, ?_⟩
    · rw [hquery, hasked, Option.map_some, percentEncode_of_keep]
      exact fun x hx => keepsQuery_of_mem_field hx
    · rw [splitAtMark_intercalate hmap hwords, List.map_map]
      rfl
  · rintro rfl
    exact hquery

/-- States that are asked for twice, not at all, or in words full of marks. -/
def oddStates : List (TaskStatus ⊕ String) :=
  [.inl .toDo, .inr "", .inr "a b&c=d+e%41#é?", .inl .toDo]

/-- Neither the query of the base URL nor that of the identifier gets in the way of odd states. -/
theorem listTasks_asks_for_odd_states :
    ∃ request query value, (({ baseUrl := "http://h/api?x=1" } : Client).run
        (Call.listTasks "w?y=2#z" (oddStates.map stateWord)) []).request? = some request ∧
      request.url.query = some query ∧ formFields query = [("statuses".toList, value)] ∧
      splitAtMark ',' value =
        ["to_do".toList, [], "a b&c=d+e%41#é?".toList, "to_do".toList] := by
  have hcomma : ∀ word, .inr word ∈ oddStates → ',' ∉ word.toList := by
    intro word hword
    have hcases : word = "" ∨ word = "a b&c=d+e%41#é?" := by simpa [oddStates] using hword
    rcases hcases with rfl | rfl <;> decide
  have hsent : ∃ request, (({ baseUrl := "http://h/api?x=1" } : Client).run
      (Call.listTasks "w?y=2#z" (oddStates.map stateWord)) []).request? = some request := ⟨_, rfl⟩
  obtain ⟨request, hrequest⟩ := hsent
  obtain ⟨query, value, hquery, hfields, hwords⟩ :=
    (listTasks_asks_for_states _ _ oddStates hcomma [] hrequest).1 (by decide)
  exact ⟨request, query, value, hrequest, hquery, hfields, hwords⟩

end Client

end WorkspaceWatch
