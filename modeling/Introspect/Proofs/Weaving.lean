import Introspect.Proofs.Directives

/-!
# Lines woven from pieces

A line is put together from pieces: plain words, markers of something left undone, and names that
carry the directive for their module. Where two pieces meet, no comment may open and no marker may
form. Then the scan for directives takes the line apart where the pieces meet, and what the line
keeps and what it asks for are what its pieces keep and ask for.

A path that breaks the line is the one exception among the names: its directive is no directive, and
all of it is kept. It still opens no other one.
-/

namespace Introspect.Source

/-! ## Where texts meet -/

/-- What a comment mark and the words of a marker are spelled with, their last characters aside. -/
def loose : List Char := ['/', 'T', 'O', 'D', 'o', 'd']

/-- What they are spelled with, their first characters aside. -/
def following : List Char := ['*', 'O', 'D', 'o', 'd']

/-- No comment opens and no marker forms where the texts meet. -/
def Apart (xs ys : List Char) : Prop :=
  ∀ c d, xs.getLast? = some c → ys.head? = some d → c ∈ loose → d ∉ following

section
variable {xs ys zs : List Char}

theorem getLast?_of_suffix (h : xs <:+ ys) (hne : xs ≠ []) : ys.getLast? = xs.getLast? := by
  obtain ⟨zs, rfl⟩ := h
  rw [List.getLast?_append, List.getLast?_eq_some_getLast hne, Option.some_or]

theorem head?_of_front (h : xs <+: ys) (hne : xs ≠ []) : ys.head? = xs.head? := by
  obtain ⟨zs, rfl⟩ := h
  rw [List.head?_append, List.head?_eq_some_head hne, Option.some_or]

/-- A suffix of two texts ends in the second one, or holds all of it. -/
theorem suffix_append_cases (h : zs <:+ xs ++ ys) :
    zs <:+ ys ∨ ∃ as, as ≠ [] ∧ as <:+ xs ∧ zs = as ++ ys := by
  obtain ⟨front, hfront⟩ := h
  rcases List.append_eq_append_iff.mp hfront with ⟨as, rfl, rfl⟩ | ⟨bs, rfl, rfl⟩
  · cases as with
    | nil => exact .inl List.suffix_rfl
    | cons c as => exact .inr ⟨_, List.cons_ne_nil c as, List.suffix_append _ _, rfl⟩
  · exact .inl (List.suffix_append _ _)

theorem apart_nil : Apart xs [] := fun _ _ _ hd => by cases hd

theorem apart_of_last (h : ∀ c, xs.getLast? = some c → c ∉ loose) : Apart xs ys :=
  fun c _ hc _ hloose => absurd hloose (h c hc)

theorem apart_of_head (h : ∀ d, ys.head? = some d → d ∉ following) : Apart xs ys :=
  fun _ d _ hd _ => h d hd

/-- Any text may stand behind blanks. -/
theorem apart_blanks (n : Nat) : Apart (List.replicate n ' ') ys := apart_of_last fun c hc => by
  rw [List.eq_of_mem_replicate (List.mem_of_getLast? hc)]
  decide

theorem Apart.append_right (h : Apart xs ys) (hne : ys ≠ []) : Apart xs (ys ++ zs) := by
  unfold Apart
  rw [head?_of_front (List.prefix_append ys zs) hne]
  exact h

theorem Apart.of_suffix (h : Apart ys zs) (hsuffix : xs <:+ ys) (hne : xs ≠ []) : Apart xs zs := by
  unfold Apart at h
  rwa [getLast?_of_suffix hsuffix hne] at h

/-- A word forms where texts meet only of its own characters. -/
theorem not_infix_append {w : List Char} (hx : ¬ w <:+: xs) (hy : ¬ w <:+: ys)
    (h : ∀ c d, xs.getLast? = some c → ys.head? = some d → c ∈ w.dropLast → d ∉ w.tail) :
    ¬ w <:+: xs ++ ys := by
  rw [List.infix_append_iff_ne_nil, not_or, not_or]
  refine ⟨hx, hy, ?_⟩
  rintro ⟨as, bs, has, hbs, rfl, hsuffix, hfront⟩
  have hlast : xs.getLast? = some (as.getLast has) := by
    rw [getLast?_of_suffix hsuffix has, List.getLast?_eq_some_getLast]
  have hhead : ys.head? = some (bs.head hbs) := by
    rw [head?_of_front hfront hbs, List.head?_eq_some_head]
  refine h _ _ hlast hhead ?_ ?_
  · rw [List.dropLast_append_of_ne_nil hbs]
    exact List.mem_append_left _ (List.getLast_mem has)
  · rw [List.tail_append_of_ne_nil has]
    exact List.mem_append_right _ (List.head_mem hbs)

end

/-- The text shows nothing that was left undone. -/
def Finished (cs : List Char) : Prop :=
  ¬ ['T', 'O', 'D', 'O'] <:+: cs ∧ ¬ ['T', 'o', 'd', 'o'] <:+: cs

instance (cs : List Char) : Decidable (Finished cs) :=
  decidable_of_iff
    (occursIn ['T', 'O', 'D', 'O'] cs = false ∧ occursIn ['T', 'o', 'd', 'o'] cs = false)
    (by rw [Finished, ← occursIn_iff, ← occursIn_iff, Bool.not_eq_true, Bool.not_eq_true])

theorem Finished.append {xs ys : List Char} (hx : Finished xs) (hy : Finished ys)
    (h : Apart xs ys) : Finished (xs ++ ys) := by
  have hcapital : ['T', 'O', 'D', 'O'] ⊆ loose := by decide
  have hcapitals : ['O', 'D', 'O'] ⊆ following := by decide
  have hsmall : ['T', 'o', 'd', 'o'] ⊆ loose := by decide
  have hsmalls : ['o', 'd', 'o'] ⊆ following := by decide
  constructor
  · exact not_infix_append hx.1 hy.1 fun c d hc hd hcw hdw =>
      h c d hc hd (hcapital (List.dropLast_subset _ hcw)) (hcapitals hdw)
  · exact not_infix_append hx.2 hy.2 fun c d hc hd hcw hdw =>
      h c d hc hd (hsmall (List.dropLast_subset _ hcw)) (hsmalls hdw)

theorem Finished.closed {xs : List Char} (hx : Finished xs) : Finished (xs ++ ['*', '/']) := by
  have hmark : Finished ['*', '/'] := by decide
  constructor
  · exact not_infix_append hx.1 hmark.1 fun _ d _ hd _ => Option.some.inj hd ▸ by decide
  · exact not_infix_append hx.2 hmark.2 fun _ d _ hd _ => Option.some.inj hd ▸ by decide

/-! ## Texts without directives -/

/-- No directive starts in the text, whatever stands behind it. -/
def Inert (w : List Char) : Prop :=
  ∀ y, y <:+ w → y ≠ [] → ∀ rest, Apart w rest → directiveAt (y ++ rest) = none

theorem parts_append_of_inert {w rest : List Char} (h : Inert w) (hrest : Apart w rest) :
    parts 0 (w ++ rest) = w.map Part.char ++ parts 0 rest :=
  parts_append fun _ _ hys => h _ hys (List.cons_ne_nil _ _) rest hrest

theorem parts_of_inert {w : List Char} (h : Inert w) : parts 0 w = w.map Part.char := by
  have hself := parts_append_of_inert h apart_nil
  rwa [List.append_nil, show parts 0 [] = [] from rfl, List.append_nil] at hself

theorem stripped_of_inert {w : List Char} (h : Inert w) : stripped w = w := by
  rw [stripped, parts_of_inert h, List.filterMap_map]
  exact List.filterMap_some

theorem Inert.append {xs ys : List Char} (hx : Inert xs) (hy : Inert ys) (h : Apart xs ys)
    (hne : ys ≠ []) : Inert (xs ++ ys) := by
  intro y hsuffix hyne rest hrest
  have hrest' : Apart ys rest := hrest.of_suffix (List.suffix_append _ _) hne
  rcases suffix_append_cases hsuffix with hys | ⟨as, has, hxs, rfl⟩
  · exact hy y hys hyne rest hrest'
  · rw [List.append_assoc]
    exact hx as hxs has _ (h.append_right hne)

theorem directiveAt_of_ne {c : Char} {cs : List Char} (h : c ≠ '/') :
    directiveAt (c :: cs) = none :=
  directiveAt_eq_none fun hopen => h hopen.1

theorem inert_of_no_slash {w : List Char} (h : '/' ∉ w) : Inert w := by
  intro y hy hne rest _
  obtain ⟨c, y, rfl⟩ := List.exists_cons_of_ne_nil hne
  exact directiveAt_of_ne fun hc => h (hy.subset (hc ▸ List.mem_cons_self))

theorem inert_of_plain {w : List Char} (h : Plain w) : Inert w := by
  intro y hy hne rest hrest
  obtain ⟨c, y, rfl⟩ := List.exists_cons_of_ne_nil hne
  refine directiveAt_eq_none ?_
  rintro ⟨rfl, hstar⟩
  cases y with
  | nil => exact hrest '/' '*' (getLast?_of_suffix hy hne) hstar (by decide) (by decide)
  | cons d y =>
      obtain rfl : d = '*' := Option.some.inj hstar
      exact h ((List.prefix_append ['/', '*'] y).isInfix.trans hy.isInfix)

/-- A closing mark behind a plain text ends no directive, for none is open. -/
theorem directiveAt_closed {w y rest : List Char} (h : Plain w) (hy : y <:+ w ++ ['*', '/'])
    (hne : y ≠ []) (hrest : rest.head? ≠ some '*') : directiveAt (y ++ rest) = none := by
  rcases suffix_append_cases hy with hsuffix | ⟨as, has, hsuffix, rfl⟩
  · rcases List.suffix_cons_iff.mp hsuffix with rfl | hsuffix
    · exact directiveAt_of_ne (by decide)
    · rcases List.suffix_cons_iff.mp hsuffix with rfl | hsuffix
      · exact directiveAt_eq_none fun hopen => hrest hopen.2
      · exact absurd (List.suffix_nil.mp hsuffix) hne
  · obtain ⟨c, as, rfl⟩ := List.exists_cons_of_ne_nil has
    by_cases hc : c = '/'
    case neg => exact directiveAt_of_ne hc
    subst hc
    cases as with
    | nil => rfl
    | cons d as =>
        refine directiveAt_eq_none ?_
        rintro ⟨-, hstar⟩
        obtain rfl : d = '*' := Option.some.inj hstar
        exact h ((List.prefix_append ['/', '*'] as).isInfix.trans hsuffix.isInfix)

theorem inert_closed {w : List Char} (h : Plain w) : Inert (w ++ ['*', '/']) := by
  intro y hy hne rest hrest
  refine directiveAt_closed h hy hne fun hstar => ?_
  exact hrest '/' '*' (getLast?_of_suffix (List.suffix_append w ['*', '/']) (by simp)) hstar
    (by decide) (by decide)

theorem inert_marker : Inert marker := by
  have htail : Inert marker.tail := inert_of_no_slash (by decide)
  intro y hy hne rest hrest
  rcases List.suffix_cons_iff.mp hy with rfl | hy
  · exact directiveAt_marker rest
  · exact htail y hy hne rest (hrest.of_suffix (List.suffix_cons _ _) (by decide))

/-! ## Directives -/

theorem untilClose_append {path rest : List Char} (hbreak : '\n' ∉ path)
    (hclose : ¬ ['*', '/'] <:+: path) : untilClose (path ++ '*' :: '/' :: rest) = some path := by
  induction path with
  | nil => rfl
  | cons c path ih =>
      rw [List.mem_cons, not_or] at hbreak
      rw [List.infix_cons_iff, not_or] at hclose
      rw [List.cons_append, untilClose, if_neg fun h => hbreak.1 h.symm, ih hbreak.2 hclose.2]
      · rfl
      · intro after hc hafter
        subst hc
        cases path with
        | nil => cases hafter
        | cons d path =>
            obtain ⟨rfl, -⟩ := List.cons.inj hafter
            exact hclose.1 (List.prefix_append ['*', '/'] path)

/-- A line break ends the search for a closing mark. -/
theorem untilClose_of_break {path rest : List Char} (hbreak : '\n' ∈ path)
    (hclose : ¬ ['*', '/'] <:+: path) : untilClose (path ++ rest) = none := by
  induction path with
  | nil => cases hbreak
  | cons c path ih =>
      rw [List.infix_cons_iff, not_or] at hclose
      by_cases hc : c = '\n'
      · subst hc
        rw [List.cons_append, untilClose, if_pos rfl]
        intro after h
        exact absurd h (by decide)
      · have hbreak' := (List.mem_cons.mp hbreak).resolve_left fun h => hc h.symm
        rw [List.cons_append, untilClose, if_neg hc, ih hbreak' hclose.2]
        · rfl
        · intro after hstar hafter
          subst hstar
          cases path with
          | nil => cases hbreak'
          | cons d path =>
              obtain ⟨rfl, -⟩ := List.cons.inj hafter
              exact hclose.1 (List.prefix_append ['*', '/'] path)

/-- The directive that asks for a path. -/
def useOf (path : List Char) : Directive := ⟨['u', 's', 'e'], path⟩

theorem directiveAt_use (after : List Char) :
    directiveAt (['/', '*', 'u', 's', 'e', ':'] ++ after) = (pathOf after).map useOf := by
  have hword : Text.isWord 'u' = true ∧ Text.isWord 's' = true ∧ Text.isWord 'e' = true ∧
      Text.isWord ':' = false := by decide
  obtain ⟨hu, hs, he, hcolon⟩ := hword
  simp [directiveAt, hu, hs, he, hcolon]
  rfl

theorem spelled_useOf (path : List Char) :
    (useOf path).spelled = ['/', '*', 'u', 's', 'e', ':'] ++ (path ++ ['*', '/']) := by
  simp [useOf, Directive.spelled]

theorem directiveAt_useOf {path : List Char} (hne : path ≠ []) (hbreak : '\n' ∉ path)
    (hclose : ¬ ['*', '/'] <:+: path) (rest : List Char) :
    directiveAt ((useOf path).spelled ++ rest) = some (useOf path) := by
  obtain ⟨c, cs, rfl⟩ := List.exists_cons_of_ne_nil hne
  rw [List.infix_cons_iff, not_or] at hclose
  rw [List.mem_cons, not_or] at hbreak
  have hpath : pathOf (c :: cs ++ ['*', '/'] ++ rest) = some (c :: cs) := by
    rw [List.append_assoc, List.cons_append, pathOf, if_neg fun hc => hbreak.1 hc.symm,
      List.cons_append, List.singleton_append, untilClose_append hbreak.2 hclose.2]
    rfl
  rw [spelled_useOf, List.append_assoc, directiveAt_use, hpath]
  rfl

/-- A name and a path that a directive behind the name may ask for. -/
structure Attached (name path : List Char) : Prop where
  plain : Plain name
  nonempty : name ≠ []
  path_nonempty : path ≠ []
  path_plain : Plain path
  unclosed : ¬ ['*', '/'] <:+: path

namespace Attached

variable {name path : List Char}

theorem apart (name path : List Char) : Apart name (useOf path).spelled :=
  apart_of_head fun d hd => by
    obtain rfl : '/' = d := Option.some.inj hd
    decide

theorem directiveAt_spelled (h : Attached name path) (hbreak : '\n' ∉ path) (rest : List Char) :
    directiveAt ((useOf path).spelled ++ rest) = some (useOf path) :=
  directiveAt_useOf h.path_nonempty hbreak h.unclosed rest

/-- The name is kept, and the directive is taken out whole. -/
theorem parts_eq (h : Attached name path) (hbreak : '\n' ∉ path) (rest : List Char) :
    parts 0 (name ++ (useOf path).spelled ++ rest) =
      name.map Part.char ++ Part.directive (useOf path) :: parts 0 rest := by
  have hmeet : Apart name ((useOf path).spelled ++ rest) :=
    (apart name path).append_right (by simp [spelled_useOf])
  rw [List.append_assoc, parts_append_of_inert (inert_of_plain h.plain) hmeet,
    parts_directive (h.directiveAt_spelled hbreak rest) rfl]

/-- A path with a line break is not asked for. -/
theorem inert_of_break (h : Attached name path) (hbreak : '\n' ∈ path) :
    Inert (name ++ (useOf path).spelled) := by
  have hbroken : ∀ rest, pathOf (path ++ ['*', '/'] ++ rest) = none := by
    intro rest
    obtain ⟨c, cs, rfl⟩ := List.exists_cons_of_ne_nil h.path_nonempty
    have hclose := h.unclosed
    rw [List.infix_cons_iff, not_or] at hclose
    rw [List.append_assoc, List.cons_append, pathOf]
    by_cases hc : c = '\n'
    · rw [if_pos hc]
    · have hbreak' := (List.mem_cons.mp hbreak).resolve_left fun h => hc h.symm
      rw [if_neg hc, untilClose_of_break hbreak' hclose.2]
      rfl
  have hspelled : Inert (useOf path).spelled := by
    rw [spelled_useOf]
    intro y hy hne rest hrest
    rcases suffix_append_cases hy with hpath | ⟨as, has, hmark, rfl⟩
    · exact inert_closed h.path_plain y hpath hne rest
        (hrest.of_suffix (List.suffix_append _ _) (by simp))
    · rcases List.suffix_cons_iff.mp hmark with rfl | htail
      · rw [List.append_assoc, directiveAt_use, hbroken]
        rfl
      · obtain ⟨c, as, rfl⟩ := List.exists_cons_of_ne_nil has
        refine directiveAt_of_ne fun hc => absurd (htail.subset List.mem_cons_self) ?_
        rw [hc]
        decide
  exact (inert_of_plain h.plain).append hspelled (apart name path) (by simp [spelled_useOf])

end Attached

/-! ## Pieces -/

/-- The scan stops where the text ends, and the ends of what is left meet other texts as the ends of
the text do. -/
structure Whole (t : List Char) : Prop where
  parts_append : ∀ rest, Apart t rest → parts 0 (t ++ rest) = parts 0 t ++ parts 0 rest
  head : (stripped t).head? = t.head?
  last : ∀ c ∈ loose, (stripped t).getLast? = some c → ∃ d ∈ loose, t.getLast? = some d

theorem whole_of_inert {w : List Char} (h : Inert w) : Whole w where
  parts_append rest hrest := by rw [parts_append_of_inert h hrest, parts_of_inert h]
  head := by rw [stripped_of_inert h]
  last c hc hlast := ⟨c, hc, by rwa [stripped_of_inert h] at hlast⟩

namespace Attached

variable {name path : List Char}

theorem parts_self (h : Attached name path) (hbreak : '\n' ∉ path) :
    parts 0 (name ++ (useOf path).spelled) = name.map Part.char ++
    [Part.directive (useOf path)] := by
  have hself := h.parts_eq hbreak []
  rwa [List.append_nil] at hself

theorem stripped_eq (h : Attached name path) (hbreak : '\n' ∉ path) :
    stripped (name ++ (useOf path).spelled) = name := by
  rw [stripped, h.parts_self hbreak, List.filterMap_append, List.filterMap_map]
  exact (List.append_nil _).trans List.filterMap_some

theorem whole (h : Attached name path) : Whole (name ++ (useOf path).spelled) := by
  by_cases hbreak : '\n' ∈ path
  · exact whole_of_inert (h.inert_of_break hbreak)
  · constructor
    · intro rest _
      rw [h.parts_eq hbreak, h.parts_self hbreak, List.append_assoc]
      rfl
    · rw [h.stripped_eq hbreak, head?_of_front (List.prefix_append _ _) h.nonempty]
    · intro c _ _
      have hclose : ['*', '/'] <:+ name ++ (useOf path).spelled := by
        rw [spelled_useOf, ← List.append_assoc, ← List.append_assoc]
        exact List.suffix_append _ _
      exact ⟨'/', by decide, getLast?_of_suffix hclose (by decide)⟩

/-- What is left of the name and the directive shows nothing undone when the name and the path do
not. -/
theorem finished (h : Attached name path) (hname : Finished name) (hpath : Finished path) :
    Finished (stripped (name ++ (useOf path).spelled)) := by
  by_cases hbreak : '\n' ∈ path
  · have hspelled : Finished (useOf path).spelled := by
      rw [spelled_useOf]
      refine .append (by decide) hpath.closed (apart_of_last fun c hc => ?_)
      obtain rfl : ':' = c := Option.some.inj hc
      decide
    rw [stripped_of_inert (h.inert_of_break hbreak)]
    exact hname.append hspelled (apart name path)
  · rwa [h.stripped_eq hbreak]

end Attached

namespace Whole

variable {t u : List Char}

theorem stripped_append (ht : Whole t) (h : Apart t u) :
    stripped (t ++ u) = stripped t ++ stripped u := by
  rw [stripped, ht.parts_append u h, List.filterMap_append]
  rfl

/-- What is left of texts that are kept apart is kept apart. -/
theorem apart (ht : Whole t) (hu : Whole u) (h : Apart t u) : Apart (stripped t) (stripped u) := by
  intro c d hc hd hloose
  obtain ⟨c', hloose', hc'⟩ := ht.last c hloose hc
  exact h c' d hc' (hu.head ▸ hd) hloose'

theorem append (ht : Whole t) (hu : Whole u) (h : Apart t u) : Whole (t ++ u) := by
  have hnil : stripped u = [] ↔ u = [] := by
    rw [← List.head?_eq_none_iff, hu.head, List.head?_eq_none_iff]
  constructor
  · intro rest hrest
    by_cases hne : u = []
    · subst hne
      rw [List.append_nil] at hrest ⊢
      exact ht.parts_append rest hrest
    · rw [List.append_assoc, ht.parts_append _ (h.append_right hne),
        hu.parts_append rest (hrest.of_suffix (List.suffix_append _ _) hne), ht.parts_append u h,
        List.append_assoc]
  · rw [ht.stripped_append h, List.head?_append, List.head?_append, ht.head, hu.head]
  · intro c hloose hc
    rw [ht.stripped_append h] at hc
    by_cases hne : u = []
    · subst hne
      rw [show stripped [] = [] from rfl, List.append_nil] at hc
      rw [List.append_nil]
      exact ht.last c hloose hc
    · rw [getLast?_of_suffix (List.suffix_append _ _) (mt hnil.mp hne)] at hc
      obtain ⟨d, hd, hlast⟩ := hu.last c hloose hc
      exact ⟨d, hd, by rw [getLast?_of_suffix (List.suffix_append _ _) hne, hlast]⟩

end Whole

/-! ## What opens in a text -/

/-- A mark that opens a comment in two texts stands in one of them, or where they meet. -/
theorem opening_cases {xs ys rest : List Char} (h : '/' :: '*' :: rest <:+ xs ++ ys) :
    '/' :: '*' :: rest <:+ ys ∨ (xs.getLast? = some '/' ∧ ys = '*' :: rest) ∨
      ∃ as, '/' :: '*' :: as <:+ xs ∧ rest = as ++ ys := by
  rcases suffix_append_cases h with hsuffix | ⟨as, has, hsuffix, heq⟩
  · exact .inl hsuffix
  · cases as with
    | nil => exact absurd rfl has
    | cons c as =>
        rw [List.cons_append, List.cons.injEq] at heq
        obtain ⟨rfl, heq⟩ := heq
        cases as with
        | nil => exact .inr (.inl ⟨getLast?_of_suffix hsuffix has, heq.symm⟩)
        | cons d as =>
            rw [List.cons_append, List.cons.injEq] at heq
            obtain ⟨rfl, rfl⟩ := heq
            exact .inr (.inr ⟨as, hsuffix, rfl⟩)

/-- What stands behind each mark that opens a comment has the property. -/
def OpensWith (P : List Char → Prop) (t : List Char) : Prop :=
  ∀ rest, '/' :: '*' :: rest <:+ t → P rest

namespace OpensWith

variable {P Q : List Char → Prop} {t u : List Char}

theorem mono (h : OpensWith P t) (hPQ : ∀ rest, P rest → Q rest) : OpensWith Q t :=
  fun rest hrest => hPQ rest (h rest hrest)

theorem of_plain (h : Plain t) : OpensWith P t := fun rest hrest =>
  absurd ((List.prefix_append ['/', '*'] rest).isInfix.trans hrest.isInfix) h

theorem append (ht : OpensWith P t) (hu : OpensWith P u) (h : Apart t u)
    (hP : ∀ rest more, P rest → P (rest ++ more)) : OpensWith P (t ++ u) := by
  intro rest hrest
  rcases opening_cases hrest with hsuffix | ⟨hlast, rfl⟩ | ⟨as, hsuffix, rfl⟩
  · exact hu rest hsuffix
  · exact absurd (by decide) (h '/' '*' hlast rfl (by decide))
  · exact hP _ _ (ht as hsuffix)

end OpensWith

/-- What stands behind the mark is not the word of a directive that asks for a module. -/
def Otherwise (rest : List Char) : Prop := ∃ c, rest.head? = some c ∧ c ≠ 'u'

theorem Otherwise.append {rest : List Char} (more : List Char) (h : Otherwise rest) :
    Otherwise (rest ++ more) := by
  obtain ⟨c, hc, hne⟩ := h
  exact ⟨c, by rw [List.head?_append, hc, Option.some_or], hne⟩

theorem opensWith_closed {w : List Char} (h : Plain w) : OpensWith Otherwise (w ++ ['*', '/']) := by
  intro rest hrest
  rcases opening_cases hrest with hsuffix | ⟨-, heq⟩ | ⟨as, hsuffix, -⟩
  · exact OpensWith.of_plain (by decide) rest hsuffix
  · exact ⟨'/', by rw [← (List.cons.inj heq).2]; rfl, by decide⟩
  · exact absurd ((List.prefix_append ['/', '*'] as).isInfix.trans hsuffix.isInfix) h

/-- The mark opens no request for a module, or one that is among the parts. -/
def Asked (ps : List Part) (rest : List Char) : Prop :=
  Otherwise rest ∨ ∃ name path, Attached name path ∧ '\n' ∉ path ∧
    (useOf path).spelled <+: '/' :: '*' :: rest ∧ Part.directive (useOf path) ∈ ps

theorem Asked.append {ps : List Part} {rest : List Char} (more : List Char) (h : Asked ps rest) :
    Asked ps (rest ++ more) := by
  rcases h with h | ⟨name, path, hattached, hbreak, hfront, hmem⟩
  · exact .inl (h.append more)
  · exact .inr ⟨name, path, hattached, hbreak,
      hfront.trans (List.prefix_append ('/' :: '*' :: rest) more), hmem⟩

theorem Asked.mono {ps qs : List Part} {rest : List Char} (hsub : ps ⊆ qs) (h : Asked ps rest) :
    Asked qs rest := by
  rcases h with h | ⟨name, path, hattached, hbreak, hfront, hmem⟩
  · exact .inl h
  · exact .inr ⟨name, path, hattached, hbreak, hfront, hsub hmem⟩

/-! ## Woven texts -/

/-- A text without comment marks; a strict one shows nothing undone. -/
structure Word (strict : Prop) (w : String) : Prop where
  plain : Plain w.toList
  finished : strict → Finished w.toList

theorem Word.mono {strict strict' : Prop} {w : String} (h : Word strict w)
    (hstrict : strict' → strict) : Word strict' w := ⟨h.plain, fun hs => h.finished (hstrict hs)⟩

/-- A text made of words, of markers unless it is strict, and of names with the paths that they may
ask for. -/
inductive Woven (strict : Prop) (U : String → String → Prop) : String → Prop
  | word {w : String} (h : Word strict w) : Woven strict U w
  | mark {what : String} (hopen : ¬ strict) (h : Plain what.toList) :
      Woven strict U (Binding.todoMark what)
  | use {name path : String} (h : U name path) (hattached : Attached name.toList path.toList)
      (hfinished : strict → Finished name.toList ∧ Finished path.toList) :
      Woven strict U (name ++ "/*use:" ++ path ++ "*/")
  | append {t u : String} (ht : Woven strict U t) (hu : Woven strict U u)
      (h : Apart t.toList u.toList) : Woven strict U (t ++ u)

theorem toList_todoMark (what : String) :
    (Binding.todoMark what).toList = marker ++ (what.toList ++ ['*', '/']) := by
  simp [Binding.todoMark, marker]

theorem toList_use (name path : String) :
    (name ++ "/*use:" ++ path ++ "*/").toList = name.toList ++ (useOf path.toList).spelled := by
  simp [spelled_useOf]

theorem apart_marker (ys : List Char) : Apart marker ys :=
  apart_of_last fun c hc => by
    obtain rfl : ' ' = c := Option.some.inj hc
    decide

theorem inert_todoMark {what : String} (h : Plain what.toList) :
    Inert (Binding.todoMark what).toList := by
  rw [toList_todoMark]
  exact inert_marker.append (inert_closed h) (apart_marker _) (by simp)

namespace Woven

variable {strict : Prop} {U : String → String → Prop} {t : String}

theorem whole (h : Woven strict U t) : Whole t.toList := by
  induction h with
  | word h => exact whole_of_inert (inert_of_plain h.plain)
  | mark _ h => exact whole_of_inert (inert_todoMark h)
  | use _ h _ =>
      rw [toList_use]
      exact h.whole
  | append _ _ h iht ihu =>
      rw [String.toList_append]
      exact iht.append ihu h

/-- A text that is strict and asks for some paths is less strict and may ask for more. -/
theorem mono {strict' : Prop} {U' : String → String → Prop} (h : Woven strict U t)
    (hstrict : strict' → strict) (hU : ∀ name path, U name path → U' name path) :
    Woven strict' U' t := by
  induction h with
  | word h => exact .word (h.mono hstrict)
  | mark hopen h => exact .mark (mt hstrict hopen) h
  | use h hattached hfinished => exact .use (hU _ _ h) hattached fun hs => hfinished (hstrict hs)
  | append _ _ h iht ihu => exact iht.append ihu h

/-- A strict text shows nothing undone. -/
theorem finished (h : Woven strict U t) (hstrict : strict) : Finished (stripped t.toList) := by
  induction h with
  | word h =>
      rw [stripped_of_inert (inert_of_plain h.plain)]
      exact h.finished hstrict
  | mark hopen _ => exact absurd hstrict hopen
  | use _ h hfinished =>
      obtain ⟨hname, hpath⟩ := hfinished hstrict
      rw [toList_use]
      exact h.finished hname hpath
  | append ht hu h iht ihu =>
      rw [String.toList_append, ht.whole.stripped_append h]
      exact iht.append ihu (ht.whole.apart hu.whole h)

/-- Each directive in the text stands behind a name that may ask for its path, and that the text
shows. -/
theorem exists_use (h : Woven strict U t) {d : Directive}
    (hd : Part.directive d ∈ parts 0 t.toList) :
    ∃ name path, U name path ∧ d = useOf path.toList ∧
      (name ++ "/*use:" ++ path ++ "*/").toList <:+: t.toList ∧
        name.toList <:+: stripped t.toList := by
  have hinert : ∀ {w : List Char}, Inert w → Part.directive d ∉ parts 0 w := by
    intro w hw hmem
    rw [parts_of_inert hw] at hmem
    obtain ⟨c, -, hc⟩ := List.mem_map.mp hmem
    cases hc
  induction h with
  | word h => exact absurd hd (hinert (inert_of_plain h.plain))
  | mark _ h => exact absurd hd (hinert (inert_todoMark h))
  | @use name path h hattached _ =>
      rw [toList_use] at hd
      by_cases hbreak : '\n' ∈ path.toList
      · exact absurd hd (hinert (hattached.inert_of_break hbreak))
      · refine ⟨name, path, h, ?_, List.infix_rfl, ?_⟩
        · rw [hattached.parts_self hbreak, List.mem_append, List.mem_map] at hd
          rcases hd with ⟨c, -, hc⟩ | hd
          · cases hc
          · exact Part.directive.inj (List.mem_singleton.mp hd)
        · rw [toList_use]
          exact ⟨[], [], by rw [hattached.stripped_eq hbreak, List.append_nil, List.nil_append]⟩
  | append ht hu h iht ihu =>
      rw [String.toList_append, ht.whole.parts_append _ h, List.mem_append] at hd
      rw [String.toList_append, ht.whole.stripped_append h]
      rcases hd with hd | hd
      · obtain ⟨name, path, hU, heq, hinside, hshown⟩ := iht hd
        exact ⟨name, path, hU, heq, List.infix_append_of_infix_left hinside,
          List.infix_append_of_infix_left hshown⟩
      · obtain ⟨name, path, hU, heq, hinside, hshown⟩ := ihu hd
        exact ⟨name, path, hU, heq, List.infix_append_of_infix_right hinside,
          List.infix_append_of_infix_right hshown⟩

theorem opensWith_todoMark {what : String} (h : Plain what.toList) :
    OpensWith Otherwise (Binding.todoMark what).toList := by
  have hmarker : OpensWith Otherwise marker := by
    intro rest hrest
    rcases List.suffix_cons_iff.mp hrest with heq | htail
    · exact ⟨'T', by rw [(List.cons.inj (List.cons.inj heq).2).2]; rfl, by decide⟩
    · exact absurd (htail.subset List.mem_cons_self) (by decide)
  rw [toList_todoMark]
  exact hmarker.append (opensWith_closed h) (apart_marker _) fun _ => Otherwise.append

/-- No directive that asks for a module is left in what the text shows. -/
theorem opensWith_stripped (h : Woven strict U t)
    (hU : ∀ name path, U name path → '\n' ∉ path.toList) :
    OpensWith Otherwise (stripped t.toList) := by
  induction h with
  | word h =>
      rw [stripped_of_inert (inert_of_plain h.plain)]
      exact .of_plain h.plain
  | mark _ h =>
      rw [stripped_of_inert (inert_todoMark h)]
      exact opensWith_todoMark h
  | use h hattached _ =>
      rw [toList_use, hattached.stripped_eq (hU _ _ h)]
      exact .of_plain hattached.plain
  | append ht hu h iht ihu =>
      rw [String.toList_append, ht.whole.stripped_append h]
      exact iht.append ihu (ht.whole.apart hu.whole h) fun _ => Otherwise.append

/-- Every request for a module that opens in the text is among its parts. -/
theorem opensWith_asked (h : Woven strict U t)
    (hU : ∀ name path, U name path → '\n' ∉ path.toList) :
    OpensWith (Asked (parts 0 t.toList)) t.toList := by
  induction h with
  | word h => exact .of_plain h.plain
  | mark _ h => exact (opensWith_todoMark h).mono fun _ => .inl
  | @use name path h hattached _ =>
      have hbreak := hU _ _ h
      rw [toList_use, hattached.parts_self hbreak]
      refine OpensWith.append (.of_plain hattached.plain) ?_ (Attached.apart _ _) fun _ =>
        Asked.append
      intro rest hrest
      rw [spelled_useOf] at hrest
      rcases opening_cases hrest with hclosed | ⟨hlast, -⟩ | ⟨as, hsuffix, rfl⟩
      · exact .inl (opensWith_closed hattached.path_plain rest hclosed)
      · cases hlast
      · rcases List.suffix_cons_iff.mp hsuffix with heq | htail
        · obtain rfl : as = ['u', 's', 'e', ':'] := (List.cons.inj (List.cons.inj heq).2).2
          refine .inr ⟨_, _, hattached, hbreak, ?_, by simp⟩
          rw [spelled_useOf]
          exact List.prefix_rfl
        · exact absurd (htail.subset List.mem_cons_self) (by decide)
  | append ht hu h iht ihu =>
      rw [String.toList_append, ht.whole.parts_append _ h]
      exact OpensWith.append (iht.mono fun _ => Asked.mono (List.subset_append_left _ _))
        (ihu.mono fun _ => Asked.mono (List.subset_append_right _ _)) h fun _ => Asked.append

/-- A directive that stands in the text and asks for a module is taken for one. -/
theorem directive_mem (h : Woven strict U t)
    (hU : ∀ name path, U name path → '\n' ∉ path.toList) {name path : List Char}
    (hattached : Attached name path) (hbreak : '\n' ∉ path)
    (hinside : (useOf path).spelled <:+: t.toList) :
    Part.directive (useOf path) ∈ parts 0 t.toList := by
  obtain ⟨before, after, htext⟩ := hinside
  have hsuffix : (useOf path).spelled ++ after <:+ t.toList :=
    ⟨before, by rw [← htext, List.append_assoc]⟩
  have hopens : Asked (parts 0 t.toList) (['u', 's', 'e', ':'] ++ (path ++ ['*', '/']) ++ after) :=
    h.opensWith_asked hU _ (by rwa [spelled_useOf] at hsuffix)
  rcases hopens with ⟨c, hc, hne⟩ | ⟨other, otherPath, hother, hbreak', ⟨more, hmore⟩, hmem⟩
  · exact absurd (Option.some.inj hc).symm hne
  · have hsame : (useOf path).spelled ++ after = (useOf otherPath).spelled ++ more := by
      rw [hmore, spelled_useOf]
      rfl
    have hfound := hattached.directiveAt_spelled hbreak after
    rw [hsame, hother.directiveAt_spelled hbreak' more] at hfound
    rwa [← Option.some.inj hfound]

end Woven

/-- What is left of the first text is in what is left of the second one. -/
def ShownIn (t u : String) : Prop := stripped t.toList <:+: stripped u.toList

namespace ShownIn

variable {strict : Prop} {U : String → String → Prop} {t u v : String}

theorem refl (t : String) : ShownIn t t := List.infix_rfl

theorem trans (h : ShownIn t u) (h' : ShownIn u v) : ShownIn t v := List.IsInfix.trans h h'

theorem append_left (h : ShownIn t u) (hu : Woven strict U u) (hmeet : Apart u.toList v.toList) :
    ShownIn t (u ++ v) := by
  rw [ShownIn, String.toList_append, hu.whole.stripped_append hmeet]
  exact List.infix_append_of_infix_left h

theorem append_right (h : ShownIn t v) (hu : Woven strict U u) (hmeet : Apart u.toList v.toList) :
    ShownIn t (u ++ v) := by
  rw [ShownIn, String.toList_append, hu.whole.stripped_append hmeet]
  exact List.infix_append_of_infix_right h

end ShownIn

/-! ## Putting texts together -/

/-- The text has no comment mark and no marker. -/
def clean (cs : List Char) : Bool := decide (Plain cs) && decide (Finished cs)

/-- Besides, any other text may stand behind it. -/
def settled (cs : List Char) : Bool := clean cs && cs.getLast?.all fun c => !loose.contains c

/-- Besides, it may stand behind any other text. -/
def joining (cs : List Char) : Bool := settled cs && cs.head?.any fun c => !following.contains c

/-- The text has no comment mark and no marker, and may stand behind any other text. -/
def trailing (cs : List Char) : Bool := clean cs && cs.head?.any fun c => !following.contains c

/-- A woven text that any other may stand behind. -/
structure Closed (strict : Prop) (U : String → String → Prop) (t : String) : Prop where
  woven : Woven strict U t
  last : ∀ c, t.toList.getLast? = some c → c ∉ loose

/-- A fixed text that holds others together. -/
structure Link (l : String) : Prop where
  word : ∀ strict, Word strict l
  head : ∃ d, l.toList.head? = some d ∧ d ∉ following
  last : ∀ c, l.toList.getLast? = some c → c ∉ loose

theorem Word.fixed {strict : Prop} {cs : List Char} (h : clean cs = true) :
    Word strict (String.ofList cs) := by
  rw [clean, Bool.and_eq_true, decide_eq_true_eq, decide_eq_true_eq] at h
  constructor
  · rw [String.toList_ofList]
    exact h.1
  · intro _
    rw [String.toList_ofList]
    exact h.2

theorem of_head {cs : List Char} (h : cs.head?.any (fun c => !following.contains c) = true) :
    ∃ d, (String.ofList cs).toList.head? = some d ∧ d ∉ following := by
  obtain ⟨d, hd, hfollowing⟩ := (Option.any_eq_true _ _).mp h
  rw [Bool.not_eq_true', List.contains_eq_mem, decide_eq_false_iff_not] at hfollowing
  exact ⟨d, by rwa [String.toList_ofList], hfollowing⟩

theorem of_settled {cs : List Char} (h : settled cs = true) :
    (∀ strict, Word strict (String.ofList cs)) ∧
      ∀ c, (String.ofList cs).toList.getLast? = some c → c ∉ loose := by
  rw [settled, Bool.and_eq_true, Option.all_eq_true] at h
  refine ⟨fun _ => .fixed h.1, fun c hc => ?_⟩
  rw [String.toList_ofList] at hc
  have hlast := h.2 c hc
  rwa [Bool.not_eq_true', List.contains_eq_mem, decide_eq_false_iff_not] at hlast

theorem link {cs : List Char} (h : joining cs = true) : Link (String.ofList cs) := by
  rw [joining, Bool.and_eq_true] at h
  obtain ⟨hword, hlast⟩ := of_settled h.1
  exact ⟨hword, of_head h.2, hlast⟩

section
variable {strict : Prop} {U : String → String → Prop} {t u w l sep : String}

theorem closed {cs : List Char} (h : settled cs = true) : Closed strict U (String.ofList cs) :=
  ⟨.word ((of_settled h).1 strict), (of_settled h).2⟩

/-- A fixed name and a fixed path behind it. -/
def attachable (name path : List Char) : Bool :=
  clean name && clean path && !name.isEmpty && !path.isEmpty && !occursIn ['*', '/'] path

theorem attached_fixed {name path : List Char} (h : attachable name path = true) :
    Attached (String.ofList name).toList (String.ofList path).toList := by
  simp only [attachable, clean, Bool.and_eq_true, Bool.not_eq_true', ← Bool.not_eq_true,
    occursIn_iff, List.isEmpty_iff, decide_eq_true_eq] at h
  obtain ⟨⟨⟨⟨hname, hpath⟩, hne⟩, hpathne⟩, hclose⟩ := h
  rw [String.toList_ofList, String.toList_ofList]
  exact ⟨hname.1, hne, hpathne, hpath.1, hclose⟩

theorem woven_use {name path : List Char} (hU : U (String.ofList name) (String.ofList path))
    (h : attachable name path = true) :
    Woven strict U (String.ofList name ++ "/*use:" ++ String.ofList path ++ "*/") := by
  have hattached := attached_fixed h
  simp only [attachable, Bool.and_eq_true] at h
  exact .use hU hattached fun hstrict =>
    ⟨(Word.fixed h.1.1.1.1).finished hstrict, (Word.fixed h.1.1.1.2).finished hstrict⟩

theorem Link.apart (hl : Link l) (xs : List Char) : Apart xs l.toList := by
  obtain ⟨d, hd, hfollowing⟩ := hl.head
  exact apart_of_head fun d' hd' => Option.some.inj (hd.symm.trans hd') ▸ hfollowing

/-- A fixed text at the end. -/
theorem Woven.trail (hw : Woven strict U w) {cs : List Char} (h : trailing cs = true) :
    Woven strict U (w ++ String.ofList cs) := by
  rw [trailing, Bool.and_eq_true] at h
  obtain ⟨d, hd, hfollowing⟩ := of_head h.2
  exact hw.append (.word (.fixed h.1)) (apart_of_head fun d' hd' =>
    Option.some.inj (hd.symm.trans hd') ▸ hfollowing)

theorem Woven.link (hw : Woven strict U w) (hl : Link l) : Closed strict U (w ++ l) where
  woven := hw.append (.word (hl.word strict)) (hl.apart _)
  last := by
    obtain ⟨d, hd, -⟩ := hl.head
    have hne : l.toList ≠ [] := by
      intro hnil
      rw [hnil] at hd
      cases hd
    rw [String.toList_append, getLast?_of_suffix (List.suffix_append _ _) hne]
    exact hl.last

namespace Closed

theorem snoc (ht : Closed strict U t) (hw : Woven strict U w) : Woven strict U (t ++ w) :=
  ht.woven.append hw (apart_of_last ht.last)

theorem link (ht : Closed strict U t) (hl : Link l) : Closed strict U (t ++ l) := ht.woven.link hl

/-- A piece between two fixed texts. -/
theorem add (ht : Closed strict U t) (hw : Woven strict U w) (hl : Link l) :
    Closed strict U (t ++ w ++ l) :=
  (ht.snoc hw).link hl

end Closed

theorem woven_intercalate (hsep : Link sep) {ts : List String} (h : ∀ t ∈ ts, Woven strict U t) :
    Woven strict U (sep.intercalate ts) := by
  induction ts with
  | nil =>
      rw [String.intercalate_nil]
      exact .word ⟨by decide, fun _ => by decide⟩
  | cons t rest ih =>
      rw [List.forall_mem_cons] at h
      cases rest with
      | nil =>
          rw [String.intercalate_singleton]
          exact h.1
      | cons u rest =>
          rw [String.intercalate_cons_cons]
          exact (h.1.link hsep).snoc (ih h.2)

/-- What a text shows, it shows in a list. -/
theorem ShownIn.intercalate (hsep : Link sep) {ts : List String} (h : ∀ t ∈ ts, Woven strict U t)
    (ht : t ∈ ts) : ShownIn t (sep.intercalate ts) := by
  induction ts with
  | nil => cases ht
  | cons u rest ih =>
      cases rest with
      | nil =>
          rw [String.intercalate_singleton, List.mem_singleton.mp ht]
          exact .refl u
      | cons v rest =>
          rw [List.forall_mem_cons] at h
          have hfirst := h.1.link hsep
          rw [String.intercalate_cons_cons]
          rcases List.mem_cons.mp ht with rfl | ht
          · exact ((ShownIn.refl t).append_left h.1 (hsep.apart _)).append_left hfirst.woven
              (apart_of_last hfirst.last)
          · exact (ih h.2 ht).append_right hfirst.woven (apart_of_last hfirst.last)

theorem closed_braced (hw : Woven strict U w) : Closed strict U (Binding.braced w) :=
  (closed rfl).add hw (link rfl)

theorem closed_tuple {ts : List String} (h : ∀ t ∈ ts, Woven strict U t) :
    Closed strict U (Binding.tuple ts) :=
  (closed rfl).add (woven_intercalate (link rfl) h) (link rfl)

/-- A list in parentheses may stand behind anything. -/
theorem apart_tuple (xs : List Char) (ts : List String) : Apart xs (Binding.tuple ts).toList :=
  apart_of_head fun d hd => by
    have hopen : (Binding.tuple ts).toList.head? = some '(' := by simp [Binding.tuple]
    obtain rfl := Option.some.inj (hopen.symm.trans hd)
    decide

theorem closed_applied (hw : Woven strict U w) {ts : List String}
    (h : ∀ t ∈ ts, Woven strict U t) : Closed strict U (w ++ Binding.tuple ts) where
  woven := hw.append (closed_tuple h).woven (apart_tuple _ _)
  last := by
    have hclose : [')'] <:+ (Binding.tuple ts).toList := by
      rw [Binding.tuple, String.toList_append]
      exact List.suffix_append _ _
    intro c hc
    rw [String.toList_append, getLast?_of_suffix (hclose.trans (List.suffix_append _ _))
      (by decide)]
      at hc
    obtain rfl := Option.some.inj hc
    decide

/-- What a text shows, it shows in parentheses. -/
theorem ShownIn.tuple {ts : List String} (h : ∀ t ∈ ts, Woven strict U t) (ht : t ∈ ts) :
    ShownIn t (Binding.tuple ts) := by
  have hopen : Closed strict U "(" := closed rfl
  have hsep : Link ", " := link rfl
  have hclose : Link ")" := link rfl
  exact ((ShownIn.intercalate hsep h ht).append_right hopen.woven
    (apart_of_last hopen.last)).append_left (hopen.snoc (woven_intercalate hsep h)) (hclose.apart _)

/-! ## What is left of a text -/

theorem strip_word (h : Word strict w) : strip w = w := strip_of_plain h.plain

theorem Woven.strip_append (ht : Woven strict U t) (hmeet : Apart t.toList u.toList) :
    strip (t ++ u) = strip t ++ strip u := by
  refine String.toList_inj.mp ?_
  rw [String.toList_append, toList_strip, toList_strip, toList_strip, String.toList_append,
    ht.whole.stripped_append hmeet]

theorem Closed.strip_append (ht : Closed strict U t) (u : String) :
    strip (t ++ u) = strip t ++ strip u := ht.woven.strip_append (apart_of_last ht.last)

theorem Woven.strip_link (ht : Woven strict U t) (hl : Link l) : strip (t ++ l) = strip t ++ l := by
  rw [ht.strip_append (hl.apart _), strip_word (hl.word strict)]

theorem strip_intercalate (hsep : Link sep) {ts : List String} (h : ∀ t ∈ ts, Woven strict U t) :
    strip (sep.intercalate ts) = sep.intercalate (ts.map strip) := by
  induction ts with
  | nil => rfl
  | cons t rest ih =>
      rw [List.forall_mem_cons] at h
      cases rest with
      | nil => rw [String.intercalate_singleton, List.map_singleton, String.intercalate_singleton]
      | cons u rest =>
          rw [String.intercalate_cons_cons, (h.1.link hsep).strip_append,
            h.1.strip_link hsep, ih h.2, List.map_cons, List.map_cons, List.map_cons,
            String.intercalate_cons_cons]

theorem strip_tuple {ts : List String} (h : ∀ t ∈ ts, Woven strict U t) :
    strip (Binding.tuple ts) = Binding.tuple (ts.map strip) := by
  have hopen : Closed strict U "(" := closed rfl
  have hsep : Link ", " := link rfl
  rw [Binding.tuple, (hopen.snoc (woven_intercalate hsep h)).strip_link (link rfl),
    hopen.strip_append, strip_intercalate hsep h, strip_word (.fixed rfl : Word strict "("),
    Binding.tuple]

end

end Introspect.Source
