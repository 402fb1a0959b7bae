import Introspect.Proofs.Ascii
import Introspect.Proofs.Settings
import Introspect.Proofs.Vocabulary
import Mathlib.Data.List.Infix

/-!
# Listed dependencies

A dependency is listed with its version, and its module is called after both. So what a module is
called depends on the listing, and nothing else does. A text that is made with the name of a type
from another namespace follows the listing: it changes whenever the module is called differently. A
text that only looks as if it was made so, because a constant has such a value, does not change.
-/

namespace Introspect.Text

/-! ## Characters of names -/

/-- A character of an identifier. -/
def isNameChar (c : Char) : Bool := c.isAlphanum || c = '_'

/-- A character of a name with a version, as dependencies have. -/
def isVersionChar (c : Char) : Bool := isNameChar c || c = '-' || c = '.'

theorem ascii_of_isVersionChar {c : Char} (h : isVersionChar c = true) : c.toNat < 128 := by
  simp only [isVersionChar, isNameChar, Bool.or_eq_true, decide_eq_true_eq] at h
  rcases h with ((h | rfl) | rfl) | rfl
  · exact toNat_lt_of_isAlphanum h
  all_goals decide

/-- It is no blank, and no part of a comment mark. -/
theorem inner_of_isVersionChar {c : Char} (h : isVersionChar c = true) :
    isBlank c = false ∧ c ≠ '/' :=
  of_ascii (P := fun c => isVersionChar c = true → isBlank c = false ∧ c ≠ '/')
    (by decide +kernel) (ascii_of_isVersionChar h) h

theorem isVersionChar_toLower {c : Char} (h : isVersionChar c = true) :
    isVersionChar c.toLower = true :=
  of_ascii (P := fun c => isVersionChar c = true → isVersionChar c.toLower = true)
    (by decide +kernel) (ascii_of_isVersionChar h) h

theorem isVersionChar_lowerFrom {cs : List Char} (h : cs.all isVersionChar = true) :
    ∀ before, (lowerFrom before cs).all isVersionChar = true := by
  intro before
  rw [List.all_eq_true] at h
  rw [lowerFrom_of_ascii fun c hc => ascii_of_isVersionChar (h c hc), List.all_map,
    List.all_eq_true]
  exact fun c hc => isVersionChar_toLower (h c hc)

end Introspect.Text

namespace Introspect

/-! ## Names of namespaces -/

/-- A name without a version: its characters are those of an identifier. -/
def Unversioned (name : String) : Prop := name.toList.all Text.isNameChar = true

/-- A name that may have a version behind it. -/
def Versioned (name : String) : Prop := name.toList.all Text.isVersionChar = true

instance (name : String) : Decidable (Unversioned name) := inferInstanceAs (Decidable (_ = true))

instance (name : String) : Decidable (Versioned name) := inferInstanceAs (Decidable (_ = true))

theorem Unversioned.versioned {name : String} (h : Unversioned name) : Versioned name := by
  refine List.all_eq_true.mpr fun c hc => ?_
  rw [Text.isVersionChar, List.all_eq_true.mp h c hc]
  rfl

theorem Unversioned.no_dash {name : String} (h : Unversioned name) :
    '-' ∉ name.toList := fun hmem =>
  absurd (List.all_eq_true.mp h _ hmem) (by decide)

/-- A name with a version of so many letters. -/
def withVersion (n : Nat) (name : String) : String :=
  name ++ "-" ++ String.ofList (List.replicate n 'v')

theorem toList_withVersion (n : Nat) (name : String) :
    (withVersion n name).toList = name.toList ++ '-' :: List.replicate n 'v' := by
  simp [withVersion]

theorem Unversioned.withVersion {name : String} (h : Unversioned name) (n : Nat) :
    Versioned (withVersion n name) := by
  unfold Versioned
  rw [toList_withVersion, List.all_append, List.all_cons, h.versioned, List.all_eq_true.mpr]
  · rfl
  · exact fun c hc => (List.eq_of_mem_replicate hc) ▸ rfl

/-! ## Listings -/

/-- Names that other namespaces may be listed by in the settings. -/
structure Listing where
  deps : List String
  versioned : ∀ d ∈ deps, Versioned d

instance : Inhabited Listing := ⟨[], List.forall_mem_nil _⟩

/-- The same namespace, with these dependencies listed. -/
def Scope.listing (s : Scope) (l : Listing) : Scope :=
  s.under fun config => { config with deps := l.deps }

theorem Scope.space_listing (s : Scope) (l : Listing) : (s.listing l).space = s.space := rfl

/-- The dependencies as they are listed. -/
theorem Scope.exists_own {s : Scope} (h : ∀ d ∈ s.config.deps, Versioned d) :
    ∃ own : Listing, s.listing own = s := ⟨⟨s.config.deps, h⟩, rfl⟩

namespace Listing

variable {α β : Type}

/-- The same in every listing. -/
def Steady (x : Listing → α) : Prop := ∀ l l', x l = x l'

theorem Steady.map {x : Listing → α} (h : Steady x) (g : α → β) : Steady fun l => g (x l) :=
  fun l l' => congrArg g (h l l')

theorem Steady.eq {x : Listing → α} (h : Steady x) : x = fun _ => x default :=
  funext fun l => h l default

theorem Steady.exists_eq {x : Listing → α} (h : Steady x) : ∃ y, ∀ l, x l = y :=
  ⟨_, fun l => h l default⟩

/-- A list of the same length in every listing, each entry as `P` says. -/
def Each (P : (Listing → α) → Prop) (xs : Listing → List α) : Prop :=
  ∃ fs : List (Listing → α), (∀ f ∈ fs, P f) ∧ xs = fun l => fs.map (· l)

/-- Nothing in any listing, or something in each, as `P` says. -/
def Perhaps (P : (Listing → α) → Prop) (x : Listing → Option α) : Prop :=
  x = (fun _ => none) ∨ ∃ f, P f ∧ x = fun l => some (f l)

section
variable {P : (Listing → α) → Prop} {Q : (Listing → β) → Prop} {xs ys : Listing → List α}

namespace Each

theorem fixed {xs : List α} (h : ∀ x ∈ xs, P fun _ => x) : Each P fun _ => xs := by
  refine ⟨xs.map fun x _ => x, List.forall_mem_map.mpr h, ?_⟩
  simp only [List.map_map, Function.comp_def, List.map_id']

theorem nil : Each P fun _ => [] := fixed (List.forall_mem_nil _)

theorem cons {x : Listing → α} (hx : P x) (h : Each P xs) : Each P fun l => x l :: xs l := by
  obtain ⟨fs, hfs, rfl⟩ := h
  exact ⟨x :: fs, List.forall_mem_cons.mpr ⟨hx, hfs⟩, rfl⟩

theorem append (hx : Each P xs) (hy : Each P ys) : Each P fun l => xs l ++ ys l := by
  obtain ⟨fs, hfs, rfl⟩ := hx
  obtain ⟨gs, hgs, rfl⟩ := hy
  refine ⟨fs ++ gs, List.forall_mem_append.mpr ⟨hfs, hgs⟩, ?_⟩
  simp only [List.map_append]

theorem map {g : α → β} (h : Each P xs) (hg : ∀ f, P f → Q fun l => g (f l)) :
    Each Q fun l => (xs l).map g := by
  obtain ⟨fs, hfs, rfl⟩ := h
  refine ⟨fs.map fun f l => g (f l), List.forall_mem_map.mpr fun f hf => hg f (hfs f hf), ?_⟩
  simp only [List.map_map, Function.comp_def]

theorem flatMap {g : α → List β} (h : Each P xs) (hg : ∀ f, P f → Each Q fun l => g (f l)) :
    Each Q fun l => (xs l).flatMap g := by
  obtain ⟨fs, hfs, rfl⟩ := h
  induction fs with
  | nil => exact nil
  | cons f fs ih =>
      rw [List.forall_mem_cons] at hfs
      exact (hg f hfs.1).append (ih hfs.2)

theorem filterMap {g : α → Option β} (h : Each P xs)
    (hg : ∀ f, P f → Perhaps Q fun l => g (f l)) : Each Q fun l => (xs l).filterMap g := by
  obtain ⟨fs, hfs, rfl⟩ := h
  induction fs with
  | nil => exact nil
  | cons f fs ih =>
      rw [List.forall_mem_cons] at hfs
      have hrest := ih hfs.2
      rcases hg f hfs.1 with hnone | ⟨y, hy, hsome⟩
      · simp only [List.map_cons, List.filterMap_cons, congrFun hnone]
        exact hrest
      · simp only [List.map_cons, List.filterMap_cons, congrFun hsome]
        exact hrest.cons hy

/-- What is the same of each entry is the same of the list. -/
theorem steady {g : α → β} (h : Each P xs) (hg : ∀ f, P f → Steady fun l => g (f l)) :
    Steady fun l => (xs l).map g := by
  obtain ⟨fs, hfs, rfl⟩ := h
  intro l l'
  simp only [List.map_map]
  exact List.map_congr_left fun f hf => hg f (hfs f hf) l l'

theorem steady_isEmpty (h : Each P xs) : Steady fun l => (xs l).isEmpty := by
  obtain ⟨fs, -, rfl⟩ := h
  intro l l'
  simp only [List.isEmpty_map]

end Each

theorem Perhaps.toList {x : Listing → Option α} (h : Perhaps P x) :
    Each P fun l => (x l).toList := by
  rcases h with rfl | ⟨f, hf, rfl⟩
  · exact .nil
  · exact Each.nil.cons hf

end

end Listing

end Introspect

namespace Introspect.Scope

variable {s : Scope}

/-! ## Modules -/

theorem no_slash_of_versioned {name : String} (h : Versioned name) :
    '/' ∉ name.toList := fun hmem =>
  (Text.inner_of_isVersionChar (List.all_eq_true.mp h _ hmem)).2 rfl

theorem uncommented_of_versioned {name : String} (h : Versioned name) : Uncommented name.toList :=
  ⟨.of_no_slash (no_slash_of_versioned h), fun hin =>
    no_slash_of_versioned h (hin.subset (List.mem_cons_of_mem _ List.mem_cons_self))⟩

theorem versioned_moduleOf {home : String} (h : Versioned ((s.config.depFor? home).getD home)) :
    Versioned (s.moduleOf home) := by
  unfold Versioned moduleOf
  rw [String.toList_ofList, Text.lower, String.toList_ofList, List.all_map, List.all_eq_true]
  intro c hc
  have hlow := List.all_eq_true.mp (Text.isVersionChar_lowerFrom h []) c hc
  rw [Function.comp_apply]
  split
  · decide
  · exact hlow

/-- No capital is left in the name of a module. -/
theorem not_mem_moduleOf {c : Char} (hlow : Text.IsLow c) (hlower : Text.lowerChar c ≠ [c])
    (hdash : c ≠ '_') (home : String) : c ∉ (s.moduleOf home).toList := by
  rw [moduleOf, String.toList_ofList, Text.lower, String.toList_ofList, List.mem_map]
  rintro ⟨d, hd, heq⟩
  split at heq
  · exact hdash heq.symm
  · exact Text.not_mem_lowerFrom hlow hlower _ [] (heq ▸ hd)

variable {r : Reference} {home : String}

theorem mem_homes (hr : r ∈ s.space.references) (hhome : s.foreignHome? r = some home) :
    home ∈ s.space.homes :=
  List.mem_filterMap.mpr ⟨r, hr, (Option.filter_eq_some_iff.mp hhome).1⟩

/-- The name of a foreign type starts with that of a module. -/
theorem head?_typeName (hhome : s.foreignHome? r = some home)
    (hversioned : Versioned ((s.config.depFor? home).getD home)) {c : Char}
    (hc : (s.typeName r).toList.head? = some c) : c ≠ '*' ∧ c ≠ 'O' := by
  simp only [typeName_of_foreign hhome, qualified, String.toList_append, List.append_assoc] at hc
  rw [List.head?_append] at hc
  cases hm : (s.moduleOf home).toList.head? with
  | none =>
      rw [hm] at hc
      obtain rfl := Option.some.inj hc
      decide
  | some d =>
      rw [hm] at hc
      obtain rfl := Option.some.inj hc
      have hmem := List.mem_of_mem_head? hm
      have hchar := List.all_eq_true.mp (versioned_moduleOf hversioned) d hmem
      refine ⟨?_, ?_⟩
      · rintro rfl
        exact absurd hchar (by decide)
      · rintro rfl
        exact not_mem_moduleOf (by decide) (by decide +kernel) (by decide) home hmem

theorem typeName_ne_todoType (hhome : s.foreignHome? r = some home) :
    s.typeName r ≠ Binding.todoType := by
  intro heq
  have hslash : '/' ∈ (s.typeName r).toList := by
    rw [typeName_of_foreign hhome]
    simp
  rw [heq] at hslash
  exact absurd hslash (by decide)

/-! ## Relisting -/

section
variable {hs : List String}

theorem isPrefixOf_withVersion (hhome : Unversioned home) (n : Nat) (ns : String) :
    (ns.toList ++ ['-']).isPrefixOf (withVersion n home).toList = true ↔ ns = home := by
  rw [List.isPrefixOf_iff_prefix, toList_withVersion]
  constructor
  · rintro ⟨rest, heq⟩
    rw [List.append_assoc, List.singleton_append] at heq
    have hletters : '-' ∉ List.replicate n 'v' := fun hmem =>
      absurd (List.eq_of_mem_replicate hmem) (by decide)
    have hsame := (List.append_cons_inj_of_notMem hhome.no_dash hletters).mp heq.symm
    exact String.toList_inj.mp hsame.1.symm
  · rintro rfl
    exact ⟨List.replicate n 'v', by rw [List.append_assoc, List.singleton_append]⟩

/-- A namespace is listed by the first name with it in front. -/
theorem depFor?_withVersion (hhs : ∀ h ∈ hs, Unversioned h) (n : Nat) (ns : String)
    (config : Config) :
    Config.depFor? { config with deps := hs.map (withVersion n) ++ config.deps } ns =
      if ns ∈ hs then some (withVersion n ns) else config.depFor? ns := by
  unfold Config.depFor?
  rw [List.find?_append, List.find?_map]
  induction hs with
  | nil => rfl
  | cons home hs ih =>
      rw [List.forall_mem_cons] at hhs
      rw [List.find?_cons]
      by_cases heq : ns = home
      · have hfound := (isPrefixOf_withVersion hhs.1 n ns).mpr heq
        rw [Function.comp_apply, hfound, heq, if_pos List.mem_cons_self]
        rfl
      · have hother := mt (isPrefixOf_withVersion hhs.1 n ns).mp heq
        simp only [Function.comp_apply, Bool.eq_false_iff.mpr hother, List.mem_cons, heq, false_or]
        exact ih hhs.2

theorem sublist_moduleOf {n : Nat} (hdep : s.config.depFor? home = some (withVersion n home))
    (h : Unversioned home) : (List.replicate n 'v').Sublist (s.moduleOf home).toList := by
  have hascii : ∀ c ∈ (withVersion n home).toList, c.toNat < 128 := fun c hc =>
    Text.ascii_of_isVersionChar (List.all_eq_true.mp (h.withVersion n) c hc)
  rw [moduleOf, hdep, Option.getD_some, String.toList_ofList, Text.lower, String.toList_ofList,
    Text.lowerFrom_of_ascii hascii, List.map_map, toList_withVersion]
  have hletters : (List.replicate n 'v').Sublist (home.toList ++ '-' :: List.replicate n 'v') :=
    (List.sublist_cons_self _ _).trans (List.sublist_append_right _ _)
  have hkept := hletters.map ((fun c => if c = '-' ∨ c = '.' then '_' else c) ∘ Char.toLower)
  rw [List.map_replicate] at hkept
  exact hkept

/-- Dependencies can be listed so that the modules of some namespaces have as long names as one
likes, and those of the others are called as before. -/
theorem exists_relisting (hs : List String) (hhs : ∀ h ∈ hs, Unversioned h)
    (hdeps : ∀ d ∈ s.config.deps, Versioned d) (n : Nat) : ∃ l : Listing,
      (∀ home ∈ hs, n ≤ ((s.listing l).moduleOf home).toList.count 'v') ∧
      ∀ home ∉ hs, (s.listing l).moduleOf home = s.moduleOf home := by
  refine ⟨⟨hs.map (withVersion n) ++ s.config.deps, List.forall_mem_append.mpr
    ⟨List.forall_mem_map.mpr fun h hh => (hhs h hh).withVersion n, hdeps⟩⟩, ?_, ?_⟩
  · intro home hmem
    have hdep := depFor?_withVersion hhs n home s.config
    rw [if_pos hmem] at hdep
    exact List.replicate_sublist_iff.mp (sublist_moduleOf hdep (hhs home hmem))
  · intro home hmem
    have hdep := depFor?_withVersion hhs n home s.config
    rw [if_neg hmem] at hdep
    exact congrArg (fun dep : Option String => String.ofList <|
      (Text.lower (dep.getD home)).toList.map fun c => if c = '-' ∨ c = '.' then '_' else c) hdep

end

end Introspect.Scope

namespace Introspect.Listing

/-! ## Texts that follow a listing -/

/-- A text with the names of foreign types in it, which follow the listing. -/
inductive Follows (s : Scope) : (Listing → String) → Prop
  | text (t : String) : Follows s fun _ => t
  | name {r : Reference} {home : String} (hr : r ∈ s.space.references)
      (hhome : s.foreignHome? r = some home) : Follows s fun l => (s.listing l).typeName r
  | append {t u : Listing → String} (ht : Follows s t) (hu : Follows s u) :
      Follows s fun l => t l ++ u l

section
variable {s : Scope} {t u : Listing → String} {ts : Listing → List String}

theorem typeName_congr {r : Reference} {home : String} (hhome : s.foreignHome? r = some home)
    {l l' : Listing} (h : (s.listing l).moduleOf home = (s.listing l').moduleOf home) :
    (s.listing l).typeName r = (s.listing l').typeName r := by
  rw [Scope.typeName_of_foreign (s := s.listing l) hhome,
    Scope.typeName_of_foreign (s := s.listing l') hhome, Scope.qualified, Scope.qualified, h]
  rfl

namespace Follows

/-- A text is written with the name of a type from one of some namespaces, or it does not depend on
what their modules are called. -/
theorem names_or_same (h : Follows s t) (among : String → Prop) :
    (∃ r ∈ s.space.references, ∃ home, s.foreignHome? r = some home ∧ among home ∧
      ∀ l, ((s.listing l).typeName r).toList <:+: (t l).toList) ∨
    ∀ l l', (∀ home ∈ s.space.homes, ¬ among home →
      (s.listing l).moduleOf home = (s.listing l').moduleOf home) → t l = t l' := by
  induction h with
  | text t => exact .inr fun _ _ _ => rfl
  | @name r home hr hhome =>
      by_cases hamong : among home
      · exact .inl ⟨r, hr, home, hhome, hamong, fun _ => List.infix_rfl⟩
      · refine .inr fun l l' hsame => typeName_congr hhome (hsame home ?_ hamong)
        exact Scope.mem_homes hr hhome
  | append ht hu iht ihu =>
      simp only [String.toList_append]
      rcases iht with ⟨r, hr, home, hhome, hamong, hin⟩ | hsame
      · exact .inl ⟨r, hr, home, hhome, hamong, fun l => List.infix_append_of_infix_left (hin l)⟩
      rcases ihu with ⟨r, hr, home, hhome, hamong, hin⟩ | hsame'
      · exact .inl ⟨r, hr, home, hhome, hamong, fun l => List.infix_append_of_infix_right (hin l)⟩
      · exact .inr fun l l' h => congrArg₂ (· ++ ·) (hsame l l' h) (hsame' l l' h)

theorem fixed (h : Steady t) : Follows s t := h.eq ▸ .text _

theorem intercalate (sep : String) (h : Each (Follows s) ts) :
    Follows s fun l => sep.intercalate (ts l) := by
  obtain ⟨fs, hfs, rfl⟩ := h
  induction fs with
  | nil => exact .text _
  | cons f fs ih =>
      rw [List.forall_mem_cons] at hfs
      cases fs with
      | nil =>
          simp only [List.map_cons, List.map_nil, String.intercalate_singleton]
          exact hfs.1
      | cons g fs =>
          simp only [List.map_cons, String.intercalate_cons_cons]
          exact (hfs.1.append (.text _)).append (ih hfs.2)

theorem tuple (h : Each (Follows s) ts) : Follows s fun l => Binding.tuple (ts l) :=
  ((Follows.text _).append (intercalate _ h)).append (.text _)

theorem braced (h : Follows s t) : Follows s fun l => Binding.braced (t l) :=
  ((Follows.text _).append h).append (.text _)

end Follows

end

end Introspect.Listing
