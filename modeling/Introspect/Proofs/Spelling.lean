import Introspect.Binding.Function
import Introspect.Proofs.Tables
import Introspect.Proofs.Weaving

/-!
# Names in a line

Native names come into the generated source spelled in several ways: numbered, quoted, lowered,
split into words, marked as a keyword or as a set of flags. No spelling makes up a comment mark or a
marker that the name does not have. Where characters are replaced one by one, the reason is always
the same: a character is kept, or what stands for it has no place in the mark.
-/

namespace Introspect.Source

/-! ## Texts with characters replaced -/

/-- The character is kept, or replaced by characters without `first` that do not start with one of
`others`. -/
def Replaces (first : Char) (others : List Char) (c : Char) (image : List Char) : Prop :=
  image = [c] ∨ ∃ x xs, image = x :: xs ∧ first ∉ image ∧ x ∉ others

/-- The second text is the first one with each character kept or replaced. -/
inductive Rewrites (first : Char) (others : List Char) : List Char → List Char → Prop
  | nil : Rewrites first others [] []
  | step {c : Char} {image cs ds : List Char} (h : Replaces first others c image)
      (hrest : Rewrites first others cs ds) : Rewrites first others (c :: cs) (image ++ ds)

namespace Rewrites

variable {first : Char} {others cs ds w : List Char}

theorem prefix_of_rewritten (h : Rewrites first others cs ds) (hw : w ⊆ others)
    (hfront : w <+: ds) : w <+: cs := by
  induction h generalizing w with
  | nil => exact hfront
  | step h hrest ih =>
      cases w with
      | nil => exact List.nil_prefix
      | cons d w =>
          rw [List.cons_subset] at hw
          rcases h with rfl | ⟨x, xs, rfl, -, hx⟩
          · obtain ⟨rfl, hfront'⟩ := List.cons_prefix_cons.mp hfront
            exact List.cons_prefix_cons.mpr ⟨rfl, ih hw.2 hfront'⟩
          · obtain ⟨rfl, -⟩ := List.cons_prefix_cons.mp hfront
            exact absurd hw.1 hx

/-- A word of such characters is in the second text only where it is in the first. -/
theorem infix_of_rewritten (h : Rewrites first others cs ds) (hw : w ⊆ others)
    (hinside : first :: w <:+: ds) : first :: w <:+: cs := by
  induction h with
  | nil => exact hinside
  | step h hrest ih =>
      rcases h with rfl | ⟨x, xs, -, hfirst, hx⟩
      · rcases List.infix_cons_iff.mp hinside with hfront | hinside
        · obtain ⟨rfl, hfront'⟩ := List.cons_prefix_cons.mp hfront
          exact (List.cons_prefix_cons.mpr ⟨rfl, hrest.prefix_of_rewritten hw hfront'⟩).isInfix
        · exact List.infix_cons (ih hinside)
      · rcases List.infix_append_iff_ne_nil.mp hinside with
          hin | hin | ⟨as, bs, has, -, heq, hsuffix, -⟩
        · exact absurd (hin.subset List.mem_cons_self) hfirst
        · exact List.infix_cons (ih hin)
        · obtain ⟨c, as, rfl⟩ := List.exists_cons_of_ne_nil has
          obtain ⟨rfl, -⟩ := List.cons.inj heq
          exact absurd (hsuffix.subset List.mem_cons_self) hfirst

theorem flatMap {f : Char → List Char} (h : ∀ c, Replaces first others c (f c)) (cs : List Char) :
    Rewrites first others cs (cs.flatMap f) := by
  induction cs with
  | nil => exact .nil
  | cons c cs ih => exact .step (h c) ih

end Rewrites

/-! ## Words -/

namespace Word

variable {strict : Prop} {a b : String}

theorem append (ha : Word strict a) (hb : Word strict b) (h : Apart a.toList b.toList) :
    Word strict (a ++ b) where
  plain := by
    rw [String.toList_append]
    exact not_infix_append ha.plain hb.plain fun c d hc hd hcw hdw => by
      rw [List.mem_singleton.mp hcw] at hc
      rw [List.mem_singleton.mp hdw] at hd
      exact h _ _ hc hd (by decide) (by decide)
  finished hstrict := by
    rw [String.toList_append]
    exact (ha.finished hstrict).append (hb.finished hstrict) h

/-- A fixed text behind a word. -/
theorem link (ha : Word strict a) (hb : Link b) : Word strict (a ++ b) :=
  ha.append (hb.word strict) (hb.apart _)

/-- A fixed text before a word. -/
theorem behind {cs : List Char} (hb : Word strict b) (h : settled cs = true) :
    Word strict (String.ofList cs ++ b) :=
  ((of_settled h).1 strict).append hb (apart_of_last (of_settled h).2)

/-- A fixed text before a word, which may show something undone. -/
theorem behindOpen {cs : List Char} (hb : Word strict b) (hopen : ¬ strict) (hcs : Plain cs)
    (hlast : ∀ c, cs.getLast? = some c → c ∉ loose) : Word strict (String.ofList cs ++ b) := by
  have hfixed : Word strict (String.ofList cs) :=
    ⟨by rwa [String.toList_ofList], fun h => absurd h hopen⟩
  refine hfixed.append hb (apart_of_last ?_)
  rwa [String.toList_ofList]

/-- A fixed text between two words. -/
theorem join {l : String} (ha : Word strict a) (hl : Link l) (hb : Word strict b) :
    Word strict (a ++ l ++ b) := by
  refine (ha.link hl).append hb (apart_of_last ?_)
  obtain ⟨d, hd, -⟩ := hl.head
  rw [String.toList_append, getLast?_of_suffix (List.suffix_append _ _)]
  · exact hl.last
  · intro hnil
    rw [hnil] at hd
    cases hd

/-- Every marker has a capital letter. -/
theorem of_plain (hplain : Plain a.toList) (hcapital : 'T' ∉ a.toList) : Word strict a where
  plain := hplain
  finished _ :=
    ⟨fun h => hcapital (h.subset List.mem_cons_self), fun h =>
      hcapital (h.subset List.mem_cons_self)⟩

theorem number (n : Nat) : Word strict (toString n) := by
  refine of_plain (.of_no_slash (Text.no_slash_of_number n)) fun h => ?_
  rw [show toString n = Nat.repr n from rfl, Nat.toList_repr] at h
  exact absurd (Nat.isDigit_of_mem_toDigits (by decide) (by decide) h) (by decide)

end Word

end Introspect.Source

namespace Introspect.Text

open Source (Plain Finished Word Rewrites)

/-! ## Quoted texts -/

theorem rewrites_quoted (cs : List Char) :
    Rewrites 'T' ['O', 'D', 'o', 'd'] cs (cs.flatMap quotedChar) := by
  have hdigit : ∀ m, m < 16 → hexDigit m ≠ 'T' := by decide
  refine .flatMap (fun c => ?_) cs
  unfold quotedChar
  split
  · exact .inr ⟨'\\', _, rfl, by decide, by decide⟩
  split
  · exact .inr ⟨'\\', _, rfl, by decide, by decide⟩
  split
  · exact .inr ⟨'\\', _, rfl, by decide, by decide⟩
  split
  · exact .inr ⟨'\\', _, rfl, by decide, by decide⟩
  split
  · exact .inr ⟨'\\', _, rfl, by decide, by decide⟩
  split
  · exact .inr ⟨'\\', _, rfl, by decide, by decide⟩
  split
  · exact .inl rfl
  · have hnot : 'T' ∉ hex c.toNat := by
      intro h
      obtain ⟨m, hm, heq⟩ := hexDigit_of_mem_hex h
      exact hdigit m hm heq.symm
    exact .inr ⟨'\\', _, rfl, by simp [hnot], by decide⟩

theorem finished_quoted {s : String} (h : Finished s.toList) : Finished (quoted s).toList := by
  have hquote : Finished ['"'] := by decide
  have hchars : Finished (s.toList.flatMap quotedChar) :=
    ⟨fun hin => h.1 ((rewrites_quoted _).infix_of_rewritten (by decide) hin),
      fun hin => h.2 ((rewrites_quoted _).infix_of_rewritten (by decide) hin)⟩
  have hopen : Finished (['"'] ++ s.toList.flatMap quotedChar) :=
    hquote.append hchars (Source.apart_of_last fun c hc => Option.some.inj hc ▸ by decide)
  rw [quoted, String.toList_ofList]
  exact hopen.append hquote (Source.apart_of_head fun d hd => Option.some.inj hd ▸ by decide)

theorem word_quoted {strict : Prop} {s : String} (h : Word strict s) : Word strict (quoted s) where
  plain := plain_quoted h.plain
  finished hstrict := finished_quoted (h.finished hstrict)

end Introspect.Text

namespace Introspect.Text

open Source (Plain Replaces Rewrites)

/-! ## Case changes -/

/-- A mapped character is kept, or becomes characters from `bound` on. -/
theorem mapThrough_cases {runs : List CaseRun} {wide : List (Nat × List Nat)} {bound : Nat}
    (hruns : ∀ r ∈ runs, (bound : Int) ≤ r.first + r.shift)
    (hwide : ∀ p ∈ wide, p.2 ≠ [] ∧ ∀ m ∈ p.2, bound ≤ m) (c : Char) :
    mapThrough runs wide c = [c] ∨
      mapThrough runs wide c ≠ [] ∧ ∀ x ∈ mapThrough runs wide c, x = '\x00' ∨ bound ≤ x.toNat := by
  have hofNat : ∀ m, bound ≤ m → Char.ofNat m = '\x00' ∨ bound ≤ (Char.ofNat m).toNat := by
    intro m hm
    by_cases hvalid : m.isValidChar
    · have hchar : Char.ofNat m = Char.ofNatAux m hvalid := dif_pos hvalid
      rw [hchar]
      exact .inr hm
    · exact .inl (dif_neg hvalid)
  unfold mapThrough
  split
  · next m hm =>
      refine .inr ⟨List.cons_ne_nil _ _, List.forall_mem_singleton.mpr (hofNat m ?_)⟩
      obtain ⟨r, hr, hmap⟩ := List.exists_of_findSome?_eq_some hm
      have hbound := hruns r hr
      unfold CaseRun.map? at hmap
      split at hmap
      · next hin =>
          rw [Bool.and_eq_true, Bool.and_eq_true, decide_eq_true_eq] at hin
          have hfirst := hin.1.1
          rw [← Option.some.inj hmap]
          omega
      · cases hmap
  · split
    · next ms hms =>
        obtain ⟨hne, hbound⟩ := hwide (c.toNat, ms) (mem_of_lookup hms)
        exact .inr ⟨mt List.map_eq_nil_iff.mp hne,
          List.forall_mem_map.mpr fun m hm => hofNat m (hbound m hm)⟩
    · exact .inl rfl

theorem lowerChar_cases (c : Char) :
    lowerChar c = [c] ∨ lowerChar c ≠ [] ∧ ∀ x ∈ lowerChar c, x = '\x00' ∨ 0x61 ≤ x.toNat :=
  mapThrough_cases (by decide +kernel) (by decide) c

theorem upperChar_cases (c : Char) :
    upperChar c = [c] ∨ upperChar c ≠ [] ∧ ∀ x ∈ upperChar c, x = '\x00' ∨ 0x41 ≤ x.toNat :=
  mapThrough_cases (by decide +kernel) (by decide +kernel) c

/-- A character that lowering puts into no text, but leaves where it stands. -/
def IsLow (x : Char) : Prop := x ≠ '\x00' ∧ x.toNat < 0x61

instance (x : Char) : Decidable (IsLow x) := inferInstanceAs (Decidable (_ ∧ _))

theorem not_mem_of_low {x : Char} {cs : List Char} (hx : IsLow x)
    (h : ∀ y ∈ cs, y = '\x00' ∨ 0x61 ≤ y.toNat) : x ∉ cs := fun hmem =>
  (h x hmem).elim hx.1 (Nat.not_le.mpr hx.2)

theorem eq_of_mem_lowerChar {x c : Char} (hx : IsLow x) (h : x ∈ lowerChar c) :
    c = x ∧ lowerChar x = [x] := by
  rcases lowerChar_cases c with hc | ⟨-, hc⟩
  · rw [hc, List.mem_singleton] at h
    subst h
    exact ⟨rfl, hc⟩
  · exact absurd h (not_mem_of_low hx hc)

section
variable {first : Char} {others : List Char}

theorem replaces_lowerChar (hfirst : IsLow first) (hothers : ∀ x ∈ others, IsLow x) (c : Char) :
    Replaces first others c (lowerChar c) := by
  rcases lowerChar_cases c with h | ⟨hne, h⟩
  · exact .inl h
  · obtain ⟨x, xs, hxs⟩ := List.exists_cons_of_ne_nil hne
    refine .inr ⟨x, xs, hxs, not_mem_of_low hfirst h, fun hx => ?_⟩
    exact not_mem_of_low (hothers x hx) h (hxs ▸ List.mem_cons_self)

theorem low_lowerBetween (before after : List Char) {c : Char} (hc : c = 'Σ') :
    ∃ x, lowerBetween before c after = [x] ∧ 0x61 ≤ x.toNat := by
  rw [lowerBetween, if_pos hc]
  split
  · exact ⟨_, rfl, by decide⟩
  · exact ⟨_, rfl, by decide⟩

theorem rewrites_lowerFrom (hfirst : IsLow first) (hothers : ∀ x ∈ others, IsLow x)
    (cs : List Char) : ∀ before, Rewrites first others cs (lowerFrom before cs) := by
  induction cs with
  | nil => intro _; exact .nil
  | cons c cs ih =>
      intro before
      refine .step ?_ (ih _)
      by_cases hc : c = 'Σ'
      · obtain ⟨x, himage, hx⟩ := low_lowerBetween before cs hc
        have hne : ∀ y, IsLow y → y ≠ x := fun y hy heq => Nat.not_le.mpr hy.2 (heq ▸ hx)
        refine .inr ⟨x, [], himage, ?_, fun hmem => hne x (hothers x hmem) rfl⟩
        rw [himage, List.mem_singleton]
        exact hne first hfirst
      · rw [lowerBetween, if_neg hc]
        exact replaces_lowerChar hfirst hothers c

end

/-- No capital is left that has a small form. -/
theorem not_mem_lowerFrom {x : Char} (hx : IsLow x) (hlower : lowerChar x ≠ [x]) (cs : List Char) :
    ∀ before, x ∉ lowerFrom before cs := by
  induction cs with
  | nil => intro _; exact List.not_mem_nil
  | cons c cs ih =>
      intro before
      rw [lowerFrom, List.mem_append, not_or]
      refine ⟨fun hmem => ?_, ih _⟩
      by_cases hc : c = 'Σ'
      · obtain ⟨y, himage, hy⟩ := low_lowerBetween before cs hc
        rw [himage, List.mem_singleton] at hmem
        exact Nat.not_le.mpr hx.2 (hmem ▸ hy)
      · rw [lowerBetween, if_neg hc] at hmem
        exact hlower (eq_of_mem_lowerChar hx hmem).2

end Introspect.Text

namespace Introspect

open Source (Plain Finished Word Rewrites Replaces Woven Closed Link Attached closed link)
open Text (IsLow lowerChar isUpper)

/-! ## Names in words -/

namespace Naming

variable {strict : Prop}

theorem replaces_snakeChar (c : Char) : Replaces '/' ['*'] c (snakeChar c) := by
  unfold snakeChar
  split
  · next hupper =>
      refine .inr ⟨'_', _, rfl, ?_, by decide⟩
      rw [List.mem_cons, not_or]
      refine ⟨by decide, fun hmem => ?_⟩
      obtain ⟨rfl, -⟩ := Text.eq_of_mem_lowerChar (by decide) hmem
      exact absurd hupper (by decide)
  · exact .inl rfl

/-- The words of a name have no capital that has a small form. -/
theorem word_camelToSnake {name : String} (h : Plain name.toList) :
    Word strict (camelToSnake name) := by
  have hlower : ∀ c, 'T' ∉ lowerChar c := fun c hmem =>
    absurd (Text.eq_of_mem_lowerChar (by decide) hmem).2 (by decide)
  have hfirst : ∀ c, Replaces '/' ['*'] c (if isUpper c then lowerChar c else [c]) ∧
      'T' ∉ if isUpper c then lowerChar c else [c] := by
    intro c
    split
    · have hstar : ∀ x ∈ ['*'], IsLow x := List.forall_mem_singleton.mpr (by decide)
      exact ⟨Text.replaces_lowerChar (by decide) hstar c, hlower c⟩
    · next hupper =>
        refine ⟨.inl rfl, fun hmem => hupper ?_⟩
        rw [← List.mem_singleton.mp hmem]
        decide
  have hrest : ∀ c, 'T' ∉ snakeChar c := by
    intro c
    unfold snakeChar
    split
    · exact List.not_mem_cons_of_ne_of_not_mem (by decide) (hlower c)
    · next hupper =>
        intro hmem
        rw [← List.mem_singleton.mp hmem] at hupper
        exact hupper (by decide)
  unfold camelToSnake
  split
  · exact .of_plain (by decide) (by decide)
  · next c cs hname =>
      rw [hname] at h
      have hrewrites := Rewrites.step (hfirst c).1 (.flatMap replaces_snakeChar cs)
      refine .of_plain ?_ ?_
      · rw [String.toList_ofList]
        exact fun hin => h (hrewrites.infix_of_rewritten (by decide) hin)
      · rw [String.toList_ofList, List.mem_append, List.mem_flatMap, not_or]
        exact ⟨(hfirst c).2, fun ⟨d, _, hmem⟩ => hrest d hmem⟩

theorem word_trampoline {name : String} (h : Plain name.toList) : Word strict (trampoline name) :=
  (word_camelToSnake h).link (link rfl)

theorem replaces_upperChar (c : Char) : Replaces '/' ['*'] c (Text.upperChar c) := by
  have hno : ∀ x : Char, x ≠ '\x00' → x.toNat < 0x41 →
      (∀ y ∈ Text.upperChar c, y = '\x00' ∨ 0x41 ≤ y.toNat) →
      x ∉ Text.upperChar c := fun x hzero hlow h hmem =>
    (h x hmem).elim hzero (Nat.not_le.mpr hlow)
  rcases Text.upperChar_cases c with h | ⟨hne, h⟩
  · exact .inl h
  · obtain ⟨x, xs, hxs⟩ := List.exists_cons_of_ne_nil hne
    refine .inr ⟨x, xs, hxs, hno '/' (by decide) (by decide) h, fun hx => ?_⟩
    rw [List.mem_singleton] at hx
    exact hno '*' (by decide) (by decide) h (hxs ▸ hx ▸ List.mem_cons_self)

/-- The constant of a member opens no comment that its name does not open. -/
theorem plain_memberConst {name : String} (h : Plain name.toList) :
    Plain (memberConst name).toList := by
  have hdash : ∀ c, Replaces '/' ['*'] c [if c = '-' then '_' else c] := by
    intro c
    split
    · exact .inr ⟨'_', [], rfl, by decide, by decide⟩
    · exact .inl rfl
  have hupper : Plain (Text.upper
      (String.ofList (name.toList.map fun c => if c = '-' then '_' else c))).toList := by
    rw [Text.upper, String.toList_ofList, String.toList_ofList, List.map_eq_flatMap]
    intro hin
    have hin := (Rewrites.flatMap replaces_upperChar _).infix_of_rewritten (by decide) hin
    exact h ((Rewrites.flatMap hdash _).infix_of_rewritten (by decide) hin)
  unfold memberConst
  dsimp only
  split
  · split
    · rw [String.toList_append]
      exact .append_of_no_slash (by decide) hupper
    · exact hupper
  · exact hupper

theorem word_spelled {name : String} (h : Word strict name) (n : Nat) :
    Word strict (Locals.spelled name n) := by
  unfold Locals.spelled
  split
  · exact h
  · refine h.append (.number n) (Source.apart_of_head fun d hd => ?_)
    have hdigit : d.isDigit := by
      rw [show toString n = Nat.repr n from rfl, Nat.toList_repr] at hd
      exact Nat.isDigit_of_mem_toDigits (by decide) (by decide) (List.mem_of_mem_head? hd)
    intro hmem
    have hno : (!d.isDigit) = true := List.all_eq_true.mp (by decide : Source.following.all
      fun c => !c.isDigit) d hmem
    rw [hdigit] at hno
    cases hno

theorem word_itemName {name : String} (h : Word strict name) : Word strict (itemName name) := by
  unfold itemName
  split
  · exact h.link (link rfl)
  split
  · exact h.behind rfl
  · exact h

theorem word_enumType {name : String} (h : Word strict name) : Word strict (enumType name) :=
  h.link (link rfl)

theorem word_flagsType {name : String} (h : Word strict name) : Word strict (flagsType name) := by
  unfold flagsType
  split
  · exact h
  · exact h.link (link rfl)

end Naming

/-! ## Names of types -/

/-- No comment opens or closes in the text. -/
def Uncommented (cs : List Char) : Prop := Plain cs ∧ ¬ ['*', '/'] <:+: cs

instance (cs : List Char) : Decidable (Uncommented cs) :=
  decidable_of_iff (Plain cs ∧ Source.occursIn ['*', '/'] cs = false)
    (by rw [Uncommented, ← Source.occursIn_iff, Bool.not_eq_true])

namespace Scope

variable {strict : Prop} {U : String → String → Prop} {s : Scope} {r : Reference}

theorem word_localName (h : Word strict r.name) : Word strict (s.localName r) := by
  unfold localName
  split
  · exact Naming.word_enumType h
  · exact Naming.word_flagsType h
  · exact h

/-- The module of a namespace is a word without comment marks when the name it is made from has
none. -/
theorem uncommented_moduleOf {ns : String}
    (h : Uncommented ((s.config.depFor? ns).getD ns).toList) :
    Uncommented (s.moduleOf ns).toList ∧ 'T' ∉ (s.moduleOf ns).toList := by
  have hdash : ∀ {first : Char} {others : List Char}, first ≠ '_' → '_' ∉ others → ∀ c,
      Replaces first others c [if c = '-' ∨ c = '.' then '_' else c] := by
    intro first others hfirst hothers c
    split
    · exact .inr ⟨'_', [], rfl, by rwa [List.mem_singleton], hothers⟩
    · exact .inl rfl
  have hno : ∀ {first other : Char}, IsLow first → IsLow other → first ≠ '_' → '_' ≠ other →
      ¬ [first, other] <:+: ((s.config.depFor? ns).getD ns).toList →
        ¬ [first, other] <:+: (s.moduleOf ns).toList := by
    intro first other hfirst hother hne hne' hnot hin
    rw [moduleOf, String.toList_ofList, Text.lower, String.toList_ofList,
      List.map_eq_flatMap] at hin
    have hlow : ∀ x ∈ [other], IsLow x := List.forall_mem_singleton.mpr hother
    have hin := (Rewrites.flatMap (hdash hne (by rwa [List.mem_singleton])) _).infix_of_rewritten
      (List.Subset.refl _) hin
    exact hnot ((Text.rewrites_lowerFrom hfirst hlow _ []).infix_of_rewritten
      (List.Subset.refl _) hin)
  refine ⟨⟨hno (by decide) (by decide) (by decide) (by decide) h.1,
    hno (by decide) (by decide) (by decide) (by decide) h.2⟩, fun hmem => ?_⟩
  rw [moduleOf, String.toList_ofList, Text.lower, String.toList_ofList, List.mem_map] at hmem
  obtain ⟨c, hc, heq⟩ := hmem
  split at heq
  · exact absurd heq (by decide)
  · exact Text.not_mem_lowerFrom (by decide) (by decide) _ [] (heq ▸ hc)

/-- A foreign type, reached through its module. -/
def qualified (s : Scope) (home : String) (r : Reference) : String :=
  s.moduleOf home ++ "::" ++ s.localName r

theorem typeName_of_foreign {home : String} (h : s.foreignHome? r = some home) :
    s.typeName r = s.qualified home r ++ "/*use:" ++ ("super::" ++ s.moduleOf home) ++ "*/" := by
  have hsame : "/*use:super::" = "/*use:" ++ "super::" := by simp
  simp only [typeName, h, qualified, hsame, String.append_assoc]

section
variable {home : String}

theorem word_qualified (hname : Word strict r.name)
    (h : Uncommented ((s.config.depFor? home).getD home).toList) :
    Word strict (s.qualified home r) :=
  have ⟨⟨hplain, _⟩, hcapital⟩ := uncommented_moduleOf h
  (Word.of_plain hplain hcapital).join (link rfl) (word_localName hname)

theorem word_modulePath (h : Uncommented ((s.config.depFor? home).getD home).toList) :
    Word strict ("super::" ++ s.moduleOf home) :=
  have ⟨⟨hplain, _⟩, hcapital⟩ := uncommented_moduleOf h
  (Word.of_plain hplain hcapital).behind rfl

theorem attached_qualified (hname : Plain r.name.toList)
    (h : Uncommented ((s.config.depFor? home).getD home).toList) :
    Attached (s.qualified home r).toList ("super::" ++ s.moduleOf home).toList := by
  have hword : Word False r.name := ⟨hname, False.elim⟩
  have hpath : Word False ("super::" ++ s.moduleOf home) := word_modulePath h
  refine ⟨(word_qualified hword h).plain, by simp [qualified], by simp, hpath.plain, ?_⟩
  have hsuper : "super::".toList = ['s', 'u', 'p', 'e', 'r', ':', ':'] := String.toList_ofList
  rw [String.toList_append, hsuper]
  refine Source.not_infix_append (by decide) (uncommented_moduleOf h).1.2 fun c d hc _ hcw => ?_
  obtain rfl : ':' = c := Option.some.inj hc
  exact absurd hcw (by decide)

end

/-- A name of this namespace is a word; one of another namespace stands before the directive for its
module. -/
theorem woven_typeName (hname : Word strict r.name)
    (hhome : ∀ home, s.foreignHome? r = some home →
      Uncommented ((s.config.depFor? home).getD home).toList ∧
        U (s.qualified home r) ("super::" ++ s.moduleOf home)) :
    Woven strict U (s.typeName r) := by
  cases hr : s.foreignHome? r with
  | none =>
      simp only [typeName, hr]
      exact .word (word_localName hname)
  | some home =>
      obtain ⟨hcomment, hU⟩ := hhome home hr
      rw [typeName_of_foreign hr]
      exact .use hU (attached_qualified hname.plain hcomment) fun hstrict =>
        ⟨(word_qualified hname hcomment).finished hstrict,
          (word_modulePath hcomment).finished hstrict⟩

end Scope

/-! ## Descriptions -/

namespace NativeType

variable {strict : Prop}

/-- The named types that a type mentions, those of its elements included. -/
def references : NativeType → List Reference
  | .plain s => s.reference.toList
  | .of s e => s.reference.toList ++ e.references

theorem word_base {s : Shape} (h : ∀ r ∈ s.reference, Word strict r.name) :
    Word strict (describe.base s) := by
  have hlabel : ∀ k : ReferenceKind, Word strict k.label := fun k => by cases k <;> exact .fixed rfl
  have htag : ∀ t : Tag, Word strict t.name := fun t => by cases t <;> exact .fixed rfl
  unfold describe.base
  split
  · next r _ hr => exact (hlabel r.kind).join (link rfl) (h r hr)
  · exact htag _

theorem word_marked {s : Shape} {text : String} (h : Word strict text) :
    Word strict (describe.marked s text) := by
  unfold describe.marked
  split
  · exact h.link (link rfl)
  · exact h

theorem word_describe {t : NativeType} (h : ∀ r ∈ t.references, Word strict r.name) :
    Word strict t.describe := by
  induction t with
  | plain s => exact word_marked (word_base fun r hr => h r (Option.mem_toList.mpr hr))
  | of s e ih =>
      rw [references, List.forall_mem_append] at h
      refine word_marked ?_
      split
      · exact (ih h.2).behind rfl
      · exact word_base fun r hr => h.1 r (Option.mem_toList.mpr hr)

end NativeType

namespace Binding

variable {strict : Prop} {U : String → String → Prop}

theorem woven_pointerType (hU : U "*mut c_void" "std::ffi::c_void") :
    Woven strict U pointerType := by
  have hsame : pointerType = "*mut c_void" ++ "/*use:" ++ "std::ffi::c_void" ++ "*/" := by
    simp [pointerType]
  rw [hsame]
  exact Source.woven_use hU rfl

end Binding

end Introspect
