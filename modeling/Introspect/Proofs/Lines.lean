import Introspect.Binding.Value
import Introspect.Naming.Locals
import Introspect.Source.Block
import Introspect.Text.Quoted

/-!
# Lines of a block

Directives are taken out of every line before it is kept, so what a line shows depends on where
comments open in it. A text in which none opens is plain: it survives as it is, and so does a plain
beginning of a line whatever follows, as long as the two do not open a comment between them. The
marker of something left undone is a comment but no directive, for its word is not followed by a
colon; behind a plain beginning it survives too.
-/

namespace Introspect.Source

/-! ## Occurrences -/

theorem occursIn_iff {sub : List Char} :
    ∀ {cs : List Char}, occursIn sub cs = true ↔ sub <:+: cs := by
  intro cs
  induction cs with
  | nil => rw [occursIn, List.isEmpty_iff, List.infix_nil]
  | cons c rest ih =>
      rw [occursIn, Bool.or_eq_true, ih, List.isPrefixOf_iff_prefix, List.infix_cons_iff]

/-- A line stays unfinished whatever is put around it. -/
theorem isUnfinished_of_infix {a b : String} (h : a.toList <:+: b.toList)
    (ha : isUnfinished a = true) : isUnfinished b = true := by
  unfold isUnfinished at ha ⊢
  rw [Bool.or_eq_true, occursIn_iff, occursIn_iff] at ha ⊢
  exact ha.imp (·.trans h) (·.trans h)

/-! ## Plain texts -/

/-- No comment opens in the text. -/
def Plain (cs : List Char) : Prop := ¬ ['/', '*'] <:+: cs

instance (cs : List Char) : Decidable (Plain cs) :=
  decidable_of_iff (occursIn ['/', '*'] cs = false) (by
    rw [Plain, ← occursIn_iff, Bool.not_eq_true])

theorem plain_nil : Plain [] := by decide

theorem plain_cons {c : Char} {cs : List Char} :
    Plain (c :: cs) ↔ ¬ (c = '/' ∧ cs.head? = some '*') ∧ Plain cs := by
  unfold Plain
  rw [List.infix_cons_iff, not_or, List.cons_prefix_cons]
  refine and_congr_left fun _ => not_congr (and_congr eq_comm ?_)
  cases cs with
  | nil => simp
  | cons d ds => simp [List.cons_prefix_cons, eq_comm]

/-- Texts join to a plain one when no comment opens between them. -/
theorem Plain.append {xs ys : List Char} (hx : Plain xs) (hy : Plain ys)
    (h : ys.head? ≠ some '*') : Plain (xs ++ ys) := by
  induction xs with
  | nil => exact hy
  | cons x xs ih =>
      obtain ⟨hhead, htail⟩ := plain_cons.mp hx
      rw [List.cons_append, plain_cons]
      refine ⟨?_, ih htail⟩
      rintro ⟨rfl, hstar⟩
      cases xs with
      | nil => exact h hstar
      | cons y rest => exact hhead ⟨rfl, hstar⟩

/-- Behind a text without a slash nothing can open. -/
theorem Plain.append_of_no_slash {xs ys : List Char} (hx : '/' ∉ xs) (hy : Plain ys) :
    Plain (xs ++ ys) := by
  induction xs with
  | nil => exact hy
  | cons x xs ih =>
      rw [List.mem_cons, not_or] at hx
      rw [List.cons_append, plain_cons]
      exact ⟨fun h => hx.1 h.1.symm, ih hx.2⟩

theorem Plain.of_no_slash {xs : List Char} (h : '/' ∉ xs) : Plain xs := by
  rw [← List.append_nil xs]
  exact .append_of_no_slash h plain_nil

/-- A separator that neither starts with a star nor has a slash keeps texts apart. -/
theorem plain_intercalate {sep : String} (hsep : '/' ∉ sep.toList)
    (hstar : sep.toList.head? ≠ some '*')
    (hne : sep.toList ≠ []) {texts : List String} (h : ∀ t ∈ texts, Plain t.toList) :
    Plain (sep.intercalate texts).toList := by
  induction texts with
  | nil => rw [String.intercalate_nil]; decide
  | cons t rest ih =>
      rw [List.forall_mem_cons] at h
      cases rest with
      | nil => rw [String.intercalate_singleton]; exact h.1
      | cons u rest =>
          rw [String.intercalate_cons_cons, String.toList_append, String.toList_append,
            List.append_assoc]
          refine h.1.append (.append_of_no_slash hsep (ih h.2)) ?_
          rwa [List.head?_append, List.head?_eq_some_head hne, Option.some_or,
            ← List.head?_eq_some_head hne]

/-! ## Stripping -/

/-- Only where a comment opens can a directive stand. -/
theorem directiveAt_eq_none {c : Char} {cs : List Char}
    (h : ¬ (c = '/' ∧ cs.head? = some '*')) : directiveAt (c :: cs) = none := by
  unfold directiveAt
  split
  · next heq =>
      cases heq
      exact absurd ⟨rfl, rfl⟩ h
  · rfl

/-- The characters of the line without its directives. -/
def stripped (cs : List Char) : List Char :=
  (parts 0 cs).filterMap fun
    | .char c => some c
    | .directive _ => none

theorem toList_strip (line : String) : (strip line).toList = stripped line.toList := by
  rw [strip, String.toList_ofList]
  rfl

theorem stripped_cons {c : Char} {cs : List Char} (h : directiveAt (c :: cs) = none) :
    stripped (c :: cs) = c :: stripped cs := by
  rw [stripped, parts, h]
  rfl

/-- Characters that start no directive are left as they are. -/
theorem parts_append {xs cs : List Char}
    (h : ∀ x ys, x :: ys <:+ xs → directiveAt (x :: (ys ++ cs)) = none) :
    parts 0 (xs ++ cs) = xs.map Part.char ++ parts 0 cs := by
  induction xs with
  | nil => rfl
  | cons x xs ih =>
      have hrest := ih fun y ys hys => h y ys (hys.trans (List.suffix_cons x xs))
      rw [List.cons_append, parts, h x xs List.suffix_rfl]
      exact congrArg (Part.char x :: ·) hrest

theorem parts_append_of_plain {xs cs : List Char} (hx : Plain xs) (h : cs.head? ≠ some '*') :
    parts 0 (xs ++ cs) = xs.map Part.char ++ parts 0 cs := by
  refine parts_append fun x ys hys => directiveAt_eq_none ?_
  rintro ⟨rfl, hstar⟩
  cases ys with
  | nil => exact h hstar
  | cons y rest =>
      obtain rfl : y = '*' := Option.some.inj hstar
      exact hx ((List.prefix_append ['/', '*'] rest).isInfix.trans hys.isInfix)

theorem parts_append_of_no_slash {xs cs : List Char} (hx : '/' ∉ xs) :
    parts 0 (xs ++ cs) = xs.map Part.char ++ parts 0 cs := by
  refine parts_append fun x ys hys => directiveAt_eq_none ?_
  rintro ⟨rfl, -⟩
  exact hx (hys.subset List.mem_cons_self)

theorem stripped_of_parts {xs cs : List Char}
    (h : parts 0 (xs ++ cs) = xs.map Part.char ++ parts 0 cs) :
    stripped (xs ++ cs) = xs ++ stripped cs := by
  rw [stripped, h, List.filterMap_append, List.filterMap_map]
  exact congrArg (· ++ stripped cs) List.filterMap_some

/-- A plain beginning of a line is left as it is. -/
theorem stripped_append {xs cs : List Char} (hx : Plain xs) (h : cs.head? ≠ some '*') :
    stripped (xs ++ cs) = xs ++ stripped cs :=
  stripped_of_parts (parts_append_of_plain hx h)

theorem stripped_append_of_no_slash {xs cs : List Char} (hx : '/' ∉ xs) :
    stripped (xs ++ cs) = xs ++ stripped cs :=
  stripped_of_parts (parts_append_of_no_slash hx)

theorem strip_of_plain {line : String} (h : Plain line.toList) : strip line = line := by
  have hall : stripped (line.toList ++ []) = line.toList ++ stripped [] :=
    stripped_append h (by simp)
  rw [List.append_nil] at hall
  rw [← String.toList_inj, toList_strip, hall]
  exact List.append_nil _

/-! ## Markers -/

/-- What a marker starts with. -/
def marker : List Char := ['/', '*', 'T', 'O', 'D', 'O', ' ']

/-- The marker is no directive: a space stands where the colon would. -/
theorem directiveAt_marker (rest : List Char) : directiveAt (marker ++ rest) = none := by
  have hword : Text.isWord 'T' = true ∧ Text.isWord 'O' = true ∧ Text.isWord 'D' = true ∧
      Text.isWord ' ' = false := by decide
  obtain ⟨ht, ho, hd, hspace⟩ := hword
  simp [marker, directiveAt, ht, ho, hd, hspace]

theorem parts_marker (rest : List Char) :
    parts 0 (marker ++ rest) = marker.map Part.char ++ parts 0 rest := by
  refine parts_append fun x ys hys => ?_
  rcases List.suffix_cons_iff.mp hys with heq | hys
  · rw [← List.cons_append, heq]
    exact directiveAt_marker rest
  · refine directiveAt_eq_none ?_
    rintro ⟨rfl, -⟩
    exact absurd (hys.subset List.mem_cons_self) (by decide)

theorem stripped_marker (rest : List Char) :
    stripped (marker ++ rest) = marker ++ stripped rest :=
  stripped_of_parts (parts_marker rest)

/-- The first marker of a line shows, when what stands before it is plain. -/
theorem isUnfinished_of_marker {line : String} {xs rest : List Char}
    (hline : line.toList = xs ++ (marker ++ rest)) (hx : Plain xs) :
    isUnfinished (strip line) = true := by
  refine isUnfinished_of_infix (a := "TODO") ?_ (by decide)
  rw [toList_strip, hline, stripped_append hx (by simp [marker]), stripped_marker]
  exact ⟨xs ++ ['/', '*'], ' ' :: stripped rest, by simp [marker]⟩

/-- What a plain beginning of a line shows, the line shows. -/
theorem isUnfinished_of_beginning {line : String} {a : String} {rest : List Char}
    (hline : line.toList = a.toList ++ rest) (hplain : Plain a.toList)
    (hrest : rest.head? ≠ some '*') (ha : isUnfinished a = true) :
    isUnfinished (strip line) = true := by
  refine isUnfinished_of_infix ?_ ha
  rw [toList_strip, hline, stripped_append hplain hrest]
  exact ⟨[], stripped rest, rfl⟩

/-! ## Blocks -/

/-- The text of a step. -/
def Step.text : Step → String
  | .line text | .opening text | .closing text => text

namespace Block

theorem lines_apply (b : Block) (st : Step) :
    ∃ k, (b.apply st).lines = b.lines ++ [indented k (strip st.text)] := by
  cases st <;> exact ⟨_, rfl⟩

/-- Steps only add lines, and each adds its own. -/
theorem lines_foldl (steps : List Step) :
    ∀ b : Block, ∃ ks : List Nat, ks.length = steps.length ∧
      (steps.foldl apply b).lines =
        b.lines ++ List.zipWith (fun k st => indented k (strip st.text)) ks steps := by
  induction steps with
  | nil => intro b; exact ⟨[], rfl, (List.append_nil _).symm⟩
  | cons st rest ih =>
      intro b
      obtain ⟨k, hk⟩ := lines_apply b st
      obtain ⟨ks, hlen, hrest⟩ := ih (b.apply st)
      refine ⟨k :: ks, by rw [List.length_cons, List.length_cons, hlen], ?_⟩
      rw [List.foldl_cons, hrest, hk, List.append_assoc]
      rfl

theorem exists_line_of_mem {steps : List Step} {st : Step} (h : st ∈ steps) :
    ∃ k, indented k (strip st.text) ∈ (ofSteps steps).lines := by
  obtain ⟨ks, hlen, hlines⟩ := lines_foldl steps {}
  obtain ⟨i, hi, rfl⟩ := List.getElem_of_mem h
  refine ⟨ks[i], ?_⟩
  rw [ofSteps, hlines, List.nil_append]
  refine List.mem_iff_getElem.mpr ⟨i, ?_, List.getElem_zipWith⟩
  rw [List.length_zipWith]
  omega

/-- Every line of a block is what is left of a step. -/
theorem exists_step_of_mem {steps : List Step} {line : String}
    (h : line ∈ (ofSteps steps).lines) : ∃ st ∈ steps, ∃ k, line = indented k (strip st.text) := by
  obtain ⟨ks, -, hlines⟩ := lines_foldl steps {}
  rw [ofSteps, hlines, List.nil_append] at h
  obtain ⟨i, hi, rfl⟩ := List.getElem_of_mem h
  rw [List.length_zipWith] at hi
  exact ⟨steps[i], List.getElem_mem _, ks[i], List.getElem_zipWith⟩

theorem isEmpty_ofSteps {steps : List Step} (h : steps ≠ []) : (ofSteps steps).isEmpty = false := by
  obtain ⟨st, hst⟩ := List.exists_mem_of_ne_nil steps h
  obtain ⟨k, hk⟩ := exists_line_of_mem hst
  rw [isEmpty, List.isEmpty_eq_false_iff]
  exact List.ne_nil_of_mem hk

theorem indented_zero (line : String) : indented 0 line = line := by
  unfold indented
  split
  · rfl
  · exact String.empty_append

theorem lines_ofSteps_line (text : String) : (ofSteps [.line text]).lines = [strip text] :=
  congrArg (fun l => [l]) (indented_zero (strip text))

/-- A line stands behind blanks. -/
theorem toList_indented (k : Nat) (line : String) :
    ∃ n, (indented k line).toList = List.replicate n ' ' ++ line.toList := by
  unfold indented
  split
  · exact ⟨0, rfl⟩
  · exact ⟨4 * k, by rw [String.toList_append, String.toList_ofList]⟩

theorem toList_infix_indented (k : Nat) (line : String) :
    line.toList <:+: (indented k line).toList := by
  obtain ⟨n, hindented⟩ := toList_indented k line
  rw [hindented]
  exact (List.suffix_append _ _).isInfix

/-- A block shows what one of its steps shows. -/
theorem containsTodo_of_mem {steps : List Step} {st : Step} (hst : st ∈ steps)
    (h : isUnfinished (strip st.text) = true) : (ofSteps steps).containsTodo = true := by
  obtain ⟨k, hk⟩ := exists_line_of_mem hst
  exact List.any_eq_true.mpr ⟨_, hk, isUnfinished_of_infix (toList_infix_indented k _) h⟩

end Block

end Introspect.Source

namespace Introspect.Text

open Source (Plain plain_cons)

/-! ## Quoted texts -/

theorem hexDigit_of_mem_hexFixed {c : Char} :
    ∀ {width n : Nat}, c ∈ hexFixed width n → ∃ m, m < 16 ∧ c = hexDigit m := by
  intro width
  induction width with
  | zero => intro n h; cases h
  | succ width ih =>
      intro n h
      rw [hexFixed, List.mem_append, List.mem_singleton] at h
      rcases h with h | h
      · exact ih h
      · exact ⟨n % 16, Nat.mod_lt _ (by decide), h⟩

theorem hexDigit_of_mem_hex {c : Char} {n : Nat} (h : c ∈ hex n) :
    ∃ m, m < 16 ∧ c = hexDigit m := by
  unfold hex at h
  split at h
  · rw [List.mem_singleton] at h
    exact ⟨0, by decide, h⟩
  · next ds hds => exact hexDigit_of_mem_hexFixed (List.dropWhile_subset _ h)

/-- A quoted character is the character itself, or no part of a comment mark. -/
theorem quotedChar_cases (c : Char) :
    quotedChar c = [c] ∨ '/' ∉ quotedChar c ∧ '*' ∉ quotedChar c ∧ quotedChar c ≠ [] := by
  have hdigit : ∀ m, m < 16 → hexDigit m ≠ '/' ∧ hexDigit m ≠ '*' := by decide
  unfold quotedChar
  repeat' split
  all_goals first
    | exact .inl rfl
    | exact .inr (by decide)
    | skip
  have hnot : ∀ x, x = '/' ∨ x = '*' → x ∉ hex c.toNat := by
    rintro x hx hmem
    obtain ⟨m, hm, rfl⟩ := hexDigit_of_mem_hex hmem
    exact hx.elim (hdigit m hm).1 (hdigit m hm).2
  refine .inr ⟨?_, ?_, by simp⟩
  · simp [hnot '/' (.inl rfl)]
  · simp [hnot '*' (.inr rfl)]

/-- No comment opens in a quoted text unless one opens in the text itself. -/
theorem plain_quoted {s : String} (h : Plain s.toList) : Plain (quoted s).toList := by
  have hchars : ∀ cs : List Char, Plain cs → Plain (cs.flatMap quotedChar ++ ['"']) := by
    intro cs
    induction cs with
    | nil => intro _; decide
    | cons c cs ih =>
        intro hcs
        obtain ⟨hhead, htail⟩ := plain_cons.mp hcs
        rw [List.flatMap_cons, List.append_assoc]
        rcases quotedChar_cases c with hc | ⟨hc, -, -⟩
        · rw [hc, List.singleton_append, plain_cons]
          refine ⟨?_, ih htail⟩
          rintro ⟨rfl, hstar⟩
          cases cs with
          | nil => cases hstar
          | cons d ds =>
              rw [List.flatMap_cons, List.append_assoc] at hstar
              rcases quotedChar_cases d with hd | ⟨-, hd, hne⟩
              · rw [hd] at hstar
                exact hhead ⟨rfl, hstar⟩
              · rw [List.head?_append, List.head?_eq_some_head hne, Option.some_or] at hstar
                exact hd (Option.some.inj hstar ▸ List.head_mem hne)
        · exact .append_of_no_slash hc (ih htail)
  rw [quoted, String.toList_ofList, List.cons_append]
  show Plain (['"'] ++ (s.toList.flatMap quotedChar ++ ['"']))
  exact .append_of_no_slash (by decide) (hchars _ h)

theorem no_slash_of_number (n : Nat) : '/' ∉ (toString n).toList := by
  intro h
  rw [show toString n = Nat.repr n from rfl, Nat.toList_repr] at h
  exact absurd (Nat.isDigit_of_mem_toDigits (by decide) (by decide) h) (by decide)

end Introspect.Text

/-! ## Variables and lists -/

namespace Introspect

open Source (Plain)

/-- A variable is its name with at most a number behind it. -/
theorem Naming.Locals.no_slash_alloc {locals : Naming.Locals} {name : String}
    (h : '/' ∉ name.toList) : '/' ∉ (locals.alloc name).1.toList := by
  show '/' ∉ (Naming.Locals.spelled name _).toList
  unfold Naming.Locals.spelled
  split
  · exact h
  · rw [String.toList_append, List.mem_append, not_or]
    exact ⟨h, Text.no_slash_of_number _⟩

theorem Binding.plain_tuple {texts : List String} (h : ∀ t ∈ texts, Plain t.toList) :
    Plain (tuple texts).toList := by
  rw [tuple, String.toList_append, String.toList_append, List.append_assoc]
  refine .append_of_no_slash (by decide) (.append ?_ (by decide) (by decide))
  exact Source.plain_intercalate (by decide) (by decide) (by decide) h

end Introspect
