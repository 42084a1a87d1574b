/-
**Directories in normal form.**

The daemon compares directories as texts, so that each of them must have one text only.  The normal
form of an absolute path is said here by its text; it is one or two slashes followed by names with a
slash between each two.  Bringing a path into normal form goes through its segments with those that
stay on a stack, which are names all the way; a path in normal form stays as it is.

Main definitions:

* `WorkspaceWatch.Path.IsNormal` — a path is in normal form;
* `WorkspaceWatch.Path.IsName` — a segment is a name.

Main results:

* `WorkspaceWatch.Path.isNormal_iff` — **a normal form is a root and names**;
* `WorkspaceWatch.Path.isName_keepSegments`, `WorkspaceWatch.Path.keepSegments_append` — the stack
  of segments that stay;
* `WorkspaceWatch.Path.isNormal_normalize`, `WorkspaceWatch.Path.IsNormal.normalize_eq` — **the form
  that an absolute path is brought into is normal, and a normal form stays**;
* `WorkspaceWatch.Path.normalize_append` — what may be written behind a path without a difference.
-/

import WorkspaceWatch.CommandLine.Path
import WorkspaceWatch.Proofs.Segments

set_option autoImplicit false

namespace WorkspaceWatch

namespace Path

/-! ### Normal forms -/

/-- A path is in normal form, as far as its text tells. -/
structure IsNormal (cs : List Char) : Prop where
  /-- It begins with a slash. -/
  rooted : cs.head? = some '/'
  /-- None of its segments is a dot or two dots. -/
  noDots : ∀ s ∈ splitAtMark '/' cs, s ≠ ['.'] ∧ s ≠ ['.', '.']
  /-- No segment is empty: two slashes stand side by side only at the front, and are exactly two. -/
  noEmpty : ∀ before after, cs = before ++ '/' :: '/' :: after →
    before = [] ∧ after.head? ≠ some '/'
  /-- It ends with a slash only if there is nothing but slashes. -/
  noEnd : cs.getLast? = some '/' → ∀ c ∈ cs, c = '/'

/-- A segment is a name. -/
structure IsName (s : List Char) : Prop where
  /-- It is not empty. -/
  ne_nil : s ≠ []
  /-- It is not a dot. -/
  ne_dot : s ≠ ['.']
  /-- It is not two dots. -/
  ne_dots : s ≠ ['.', '.']
  /-- It has no slash. -/
  noSlash : '/' ∉ s

/-- The first segment of a path is empty if the path begins with a slash. -/
theorem splitAtMark_eq_nil_cons {mark : Char} {cs : List Char} {rest : List (List Char)}
    (h : splitAtMark mark cs = [] :: rest) : cs = [] ∨ cs.head? = some mark := by
  cases cs with
  | nil => exact .inl rfl
  | cons c cs =>
      by_cases hc : c = mark
      · exact .inr (by rw [hc, List.head?_cons])
      · obtain ⟨piece, pieces, -, hcs⟩ := splitAtMark_cons_of_ne hc cs
        rw [hcs] at h
        cases h

/-- A segment behind the first one is empty only between two marks or at the end. -/
theorem nil_mem_tail_splitAtMark {mark : Char} {cs : List Char}
    (h : [] ∈ (splitAtMark mark cs).tail) :
    cs.getLast? = some mark ∨ ∃ before after, cs = before ++ mark :: mark :: after := by
  induction cs with
  | nil => cases h
  | cons c cs ih =>
      -- what holds of the rest holds of the whole
      have hrest : [] ∈ (splitAtMark mark cs).tail → (c :: cs).getLast? = some mark ∨
          ∃ before after, c :: cs = before ++ mark :: mark :: after := by
        intro htail
        refine (ih htail).imp (fun hlast => ?_) fun ⟨before, after, hcs⟩ => ?_
        · rw [List.getLast?_cons, hlast, Option.getD_some]
        · exact ⟨c :: before, after, by rw [hcs, List.cons_append]⟩
      obtain ⟨piece, pieces, hp⟩ := List.exists_cons_of_ne_nil (splitAtMark_ne_nil mark cs)
      by_cases hc : c = mark
      · subst hc
        rw [splitAtMark_cons_mark, List.tail_cons, hp] at h
        rcases List.mem_cons.1 h with hpiece | htail
        · subst hpiece
          rcases splitAtMark_eq_nil_cons hp with hnil | hhead
          · exact .inl (by rw [hnil]; rfl)
          · obtain ⟨after, hafter⟩ := List.head?_eq_some_iff.1 hhead
            exact .inr ⟨[], after, by rw [hafter, List.nil_append]⟩
        · exact hrest (by rwa [hp])
      · obtain ⟨piece', pieces', hp', hcs⟩ := splitAtMark_cons_of_ne hc cs
        rw [hcs, List.tail_cons] at h
        exact hrest (by rwa [hp'])

/-- Behind the slashes in front of a normal form stand names. -/
theorem IsNormal.isName {root rest : List Char} (h : IsNormal (root ++ '/' :: rest))
    (hhead : rest.head? ≠ some '/') (hrest : rest ≠ []) : ∀ s ∈ splitAtMark '/' rest, IsName s := by
  intro s hs
  obtain ⟨hdot, hdots⟩ := h.noDots s (by
    rw [splitAtMark_append]
    exact List.mem_append_right _ hs)
  refine ⟨?_, hdot, hdots, notMem_of_mem_splitAtMark hs⟩
  rintro rfl
  obtain ⟨first, more, hsplit⟩ := List.exists_cons_of_ne_nil (splitAtMark_ne_nil '/' rest)
  rw [hsplit] at hs
  rcases List.mem_cons.1 hs with hfirst | htail
  -- the first segment would be empty
  · subst hfirst
    rcases splitAtMark_eq_nil_cons hsplit with hnil | hslash
    · exact hrest hnil
    · exact hhead hslash
  -- or a later one, between two slashes or at the end
  · have htail' : [] ∈ (splitAtMark '/' rest).tail := by rwa [hsplit]
    rcases nil_mem_tail_splitAtMark htail' with hlast | ⟨before, after, rfl⟩
    · have hall := h.noEnd (by rw [List.getLast?_append, List.getLast?_cons, hlast]; rfl)
      obtain ⟨c, more', rfl⟩ := List.exists_cons_of_ne_nil hrest
      have hc : c = '/' := hall c (by simp)
      exact hhead (by rw [hc, List.head?_cons])
    · have hfront := (h.noEmpty (root ++ '/' :: before) after (by simp)).1
      exact absurd hfront (by simp)

section Names

variable {names : List (List Char)}

theorem splitAtMark_names (h : ∀ s ∈ names, IsName s) (hne : names ≠ []) :
    splitAtMark '/' (joinWithMark '/' names) = names :=
  splitAtMark_joinWithMark '/' names hne fun s hs => (h s hs).noSlash

theorem nil_notMem_names (h : ∀ s ∈ names, IsName s) : [] ∉ names :=
  fun hnil => (h [] hnil).ne_nil rfl

/-- One or two slashes in front of names are a normal form. -/
theorem isNormal_names (h : ∀ s ∈ names, IsName s) (hne : names ≠ []) {root : List Char}
    (hroot : root = [] ∨ root = ['/']) : IsNormal (root ++ '/' :: joinWithMark '/' names) := by
  have hsplit : splitAtMark '/' (root ++ '/' :: joinWithMark '/' names) =
      splitAtMark '/' root ++ names := by
    rw [splitAtMark_append, splitAtMark_names h hne]
  have hnil := nil_notMem_names h
  refine ⟨?_, ?_, ?_, ?_⟩
  · rcases hroot with rfl | rfl <;> rfl
  · intro s hs
    rw [hsplit] at hs
    rcases List.mem_append.1 hs with hs | hs
    · have hempty : s = [] := by
        rcases hroot with rfl | rfl <;> simpa [splitAtMark] using hs
      rw [hempty]
      decide
    · exact ⟨(h s hs).ne_dot, (h s hs).ne_dots⟩
  · intro before after hcs
    rw [hcs, splitAtMark_append, splitAtMark_cons_mark] at hsplit
    obtain ⟨first, more, hbefore⟩ := List.exists_cons_of_ne_nil (splitAtMark_ne_nil '/' before)
    rw [hbefore] at hsplit
    rcases hroot with rfl | rfl
    -- behind one slash in front, all segments are names
    · have hnames : more ++ [] :: splitAtMark '/' after = names := (List.cons.inj hsplit).2
      exact absurd (hnames ▸ by simp) hnil
    -- behind two, all but the first one, which is the one between them
    · obtain ⟨rfl, hmore⟩ := List.cons.inj hsplit
      cases more with
      | nil =>
          have hafter : splitAtMark '/' after = names := (List.cons.inj hmore).2
          have hfront := joinWithMark_splitAtMark '/' before
          rw [hbefore] at hfront
          refine ⟨hfront.symm, fun hhead => ?_⟩
          obtain ⟨after', rfl⟩ := List.head?_eq_some_iff.1 hhead
          rw [splitAtMark_cons_mark] at hafter
          exact hnil (hafter ▸ List.mem_cons_self)
      | cons second more =>
          have hnames : more ++ [] :: splitAtMark '/' after = names := (List.cons.inj hmore).2
          exact absurd (hnames ▸ by simp) hnil
  · intro hlast
    -- a slash at the end would leave an empty segment behind it
    obtain ⟨front, hfront⟩ := List.getLast?_eq_some_iff.1 hlast
    rw [hfront, splitAtMark_append] at hsplit
    have hends := congrArg List.getLast? hsplit
    rw [List.getLast?_append, List.getLast?_append, List.getLast?_eq_some_getLast hne] at hends
    have hempty : [] = names.getLast hne := Option.some.inj hends
    exact absurd (hempty ▸ List.getLast_mem hne) hnil

end Names

/-- **A normal form is a root of one or two slashes, and names with a slash between each two.** -/
theorem isNormal_iff (cs : List Char) : IsNormal cs ↔
    ∃ n names, (n = 1 ∨ n = 2) ∧ (∀ s ∈ names, IsName s) ∧
      cs = List.replicate n '/' ++ joinWithMark '/' names := by
  constructor
  · intro h
    obtain ⟨rest, rfl⟩ := List.head?_eq_some_iff.1 h.rooted
    by_cases hslash : rest.head? = some '/'
    · obtain ⟨rest, rfl⟩ := List.head?_eq_some_iff.1 hslash
      by_cases hrest : rest = []
      · exact ⟨2, [], .inr rfl, by simp, by rw [hrest]; rfl⟩
      · have hnames := @IsNormal.isName ['/'] rest h (h.noEmpty [] rest rfl).2 hrest
        refine ⟨2, splitAtMark '/' rest, .inr rfl, hnames, ?_⟩
        rw [joinWithMark_splitAtMark]
        rfl
    · by_cases hrest : rest = []
      · exact ⟨1, [], .inl rfl, by simp, by rw [hrest]; rfl⟩
      · refine ⟨1, splitAtMark '/' rest, .inl rfl, @IsNormal.isName [] rest h hslash hrest, ?_⟩
        rw [joinWithMark_splitAtMark]
        rfl
  · rintro ⟨n, names, hn, hnames, rfl⟩
    by_cases hne : names = []
    · subst hne
      have hslashes : ∀ c ∈ List.replicate n '/' ++ joinWithMark '/' [], c = '/' := by
        intro c hc
        rw [joinWithMark, List.append_nil] at hc
        exact List.eq_of_mem_replicate hc
      rcases hn with rfl | rfl
      · refine ⟨rfl, by decide, ?_, fun _ => hslashes⟩
        intro before after hcs
        have hlength := congrArg List.length hcs
        simp [joinWithMark] at hlength
        omega
      · refine ⟨rfl, by decide, ?_, fun _ => hslashes⟩
        intro before after hcs
        have hlength := congrArg List.length hcs
        simp only [joinWithMark, List.append_nil, List.length_replicate, List.length_append,
          List.length_cons] at hlength
        have hbefore : before = [] := List.length_eq_zero_iff.1 (by omega)
        have hafter : after = [] := List.length_eq_zero_iff.1 (by omega)
        rw [hafter]
        exact ⟨hbefore, by simp⟩
    · rcases hn with rfl | rfl
      · exact @isNormal_names _ hnames hne [] (.inl rfl)
      · exact @isNormal_names _ hnames hne ['/'] (.inr rfl)

/-! ### The segments that stay -/

/-- The segments that stay are those of the front, and with these on the stack those behind. -/
theorem keepSegments_append (rooted : Bool) (kept front behind : List (List Char)) :
    keepSegments rooted kept (front ++ behind) =
      keepSegments rooted (keepSegments rooted kept front).reverse behind := by
  fun_induction keepSegments rooted kept front <;> simp_all [keepSegments]

/-- Behind a root, all segments that stay are names: two dots take a name along or find none. -/
theorem isName_keepSegments {kept segments : List (List Char)} (hkept : ∀ s ∈ kept, IsName s)
    (hsegments : ∀ s ∈ segments, '/' ∉ s) : ∀ s ∈ keepSegments true kept segments, IsName s := by
  induction segments generalizing kept with
  | nil =>
      intro s hs
      rw [keepSegments] at hs
      exact hkept s (List.mem_reverse.1 hs)
  | cons segment rest ih =>
      have hrest : ∀ s ∈ rest, '/' ∉ s := fun s hs => hsegments s (List.mem_cons_of_mem _ hs)
      unfold keepSegments
      by_cases hempty : segment = [] ∨ segment = ['.']
      · rw [if_pos hempty]
        exact ih hkept hrest
      · rw [if_neg hempty]
        obtain ⟨hnil, hdot⟩ := not_or.1 hempty
        by_cases hdots : segment = ['.', '.']
        · rw [if_pos hdots]
          cases kept with
          | nil => exact ih (by simp) hrest
          | cons last before =>
              simp only [if_neg (hkept last List.mem_cons_self).ne_dots]
              exact ih (fun s hs => hkept s (List.mem_cons_of_mem _ hs)) hrest
        · rw [if_neg hdots]
          refine ih (fun s hs => ?_) hrest
          rcases List.mem_cons.1 hs with rfl | hs
          · exact ⟨hnil, hdot, hdots, hsegments _ List.mem_cons_self⟩
          · exact hkept s hs

/-- All names stay. -/
theorem keepSegments_names {names : List (List Char)} (h : ∀ s ∈ names, IsName s)
    (kept : List (List Char)) : keepSegments true kept names = kept.reverse ++ names := by
  induction names generalizing kept with
  | nil => rw [keepSegments, List.append_nil]
  | cons name rest ih =>
      have hname := h name List.mem_cons_self
      unfold keepSegments
      rw [if_neg (not_or.2 ⟨hname.ne_nil, hname.ne_dot⟩), if_neg hname.ne_dots,
        ih (fun s hs => h s (List.mem_cons_of_mem _ hs)), List.reverse_cons, List.append_assoc,
        List.singleton_append]

/-- A name and two dots behind it leave no trace. -/
theorem keepSegments_detour {name : List Char} (h : IsName name) (kept : List (List Char)) :
    keepSegments true kept [name, ['.', '.']] = kept.reverse := by
  simp [keepSegments, h.ne_nil, h.ne_dot, h.ne_dots]

/-! ### Paths brought into normal form -/

/-- One or two slashes of a root stay. -/
theorem rootSlashes_of_rooted {cs : List Char} (h : cs.head? = some '/') :
    rootSlashes cs = 1 ∨ rootSlashes cs = 2 := by
  obtain ⟨rest, rfl⟩ := List.head?_eq_some_iff.1 h
  unfold rootSlashes
  split
  · exact .inl rfl
  · exact .inr rfl
  · exact .inl rfl
  · next hno => exact absurd rfl (hno rest)

/-- A path with a slash in front is brought into normal form by its segments. -/
theorem normalize_of_rooted {cs : List Char} (h : cs.head? = some '/') :
    normalize cs = List.replicate (rootSlashes cs) '/' ++
      joinWithMark '/' (keepSegments true [] (splitAtMark '/' cs)) := by
  rcases rootSlashes_of_rooted h with hroot | hroot <;> simp [normalize, hroot]

/-- **The form that an absolute path is brought into is normal.** -/
theorem isNormal_normalize {cs : List Char} (h : cs.head? = some '/') :
    IsNormal (normalize cs) := by
  refine (isNormal_iff _).2 ⟨_, _, rootSlashes_of_rooted h, ?_, normalize_of_rooted h⟩
  exact isName_keepSegments (by simp) fun s hs => notMem_of_mem_splitAtMark hs

/-- Names do not begin with a slash. -/
theorem exists_joinWithMark_eq_cons {names : List (List Char)} (h : ∀ s ∈ names, IsName s)
    (hne : names ≠ []) : ∃ c rest, joinWithMark '/' names = c :: rest ∧ c ≠ '/' := by
  have hsplit := splitAtMark_names h hne
  cases hjoin : joinWithMark '/' names with
  | nil =>
      rw [hjoin] at hsplit
      exact absurd (hsplit ▸ List.mem_singleton_self []) (nil_notMem_names h)
  | cons c rest =>
      refine ⟨c, rest, rfl, ?_⟩
      rintro rfl
      rw [hjoin, splitAtMark_cons_mark] at hsplit
      exact absurd (hsplit ▸ List.mem_cons_self) (nil_notMem_names h)

/-- **A path in normal form stays as it is.** -/
theorem IsNormal.normalize_eq {cs : List Char} (h : IsNormal cs) : normalize cs = cs := by
  have hhead := h.rooted
  obtain ⟨n, names, hn, hnames, rfl⟩ := (isNormal_iff cs).1 h
  by_cases hne : names = []
  · rcases hn with rfl | rfl <;> rw [hne] <;> rfl
  · obtain ⟨c, rest, hjoin, hc⟩ := exists_joinWithMark_eq_cons hnames hne
    have hsplit := splitAtMark_names hnames hne
    have hroot : rootSlashes (List.replicate n '/' ++ joinWithMark '/' names) = n := by
      rw [hjoin]
      rcases hn with rfl | rfl <;> simp [rootSlashes, List.replicate, hc]
    -- the segments in front of the names are empty and do not stay
    obtain ⟨front, hfront, hempty⟩ : ∃ front, List.replicate n '/' = front ++ ['/'] ∧
        keepSegments true [] (splitAtMark '/' front) = [] := by
      rcases hn with rfl | rfl
      · exact ⟨[], rfl, rfl⟩
      · exact ⟨['/'], rfl, rfl⟩
    have hkeep : keepSegments true []
        (splitAtMark '/' (List.replicate n '/' ++ joinWithMark '/' names)) = names := by
      rw [hfront, List.append_assoc, List.singleton_append, splitAtMark_append,
        keepSegments_append, hempty, hsplit, List.reverse_nil, keepSegments_names hnames,
        List.reverse_nil, List.nil_append]
    rw [normalize_of_rooted hhead, hroot, hkeep]

/-- What is written behind a path with a name in it makes no difference if its segments leave those
that stay. -/
theorem normalize_append {cs : List Char} (h : cs.head? = some '/') (hname : ∃ c ∈ cs, c ≠ '/')
    {behind : List Char} (hbehind : ∀ kept, keepSegments true kept (splitAtMark '/' behind) =
      kept.reverse) : normalize (cs ++ '/' :: behind) = normalize cs := by
  have hroot : rootSlashes (cs ++ '/' :: behind) = rootSlashes cs := by
    -- three characters decide, and one of those is no slash if there are no more
    obtain ⟨rest, rfl⟩ := List.head?_eq_some_iff.1 h
    match rest with
    | [] => simp at hname
    | [c] =>
        have hc : c ≠ '/' := by simpa using hname
        simp [rootSlashes, hc]
    | c :: c' :: more => by_cases hc : c = '/' <;> by_cases hc' : c' = '/' <;>
        simp [rootSlashes, hc, hc']
  have hhead : (cs ++ '/' :: behind).head? = some '/' := by rw [List.head?_append, h]; rfl
  rw [normalize_of_rooted hhead, normalize_of_rooted h, hroot, splitAtMark_append,
    keepSegments_append, hbehind, List.reverse_reverse]

end Path

end WorkspaceWatch
