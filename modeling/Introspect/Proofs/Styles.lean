import Introspect.Naming.Words
import Introspect.Proofs.Ascii

/-!
# Two styles of names

A name in snake case and a name in camel case are the same words, joined by underscores in the one
and run together with capitals in the other. No word has an underscore or a capital of its own, so
the words can be read off a name of either style. A change of case reads them in the one style and
writes them in the other. The two changes undo each other, and no two names in camel case become
one.
-/

namespace Introspect.Naming

/-- A character behind the first one of a word. -/
def isSmall (c : Char) : Bool := c.isLower || c.isDigit

/-- A small letter, with small letters and digits behind it. -/
def IsSnakeWord : List Char → Prop
  | [] => False
  | c :: cs => c.isLower = true ∧ cs.all isSmall = true

instance : DecidablePred IsSnakeWord
  | [] => inferInstanceAs (Decidable False)
  | _ :: _ => inferInstanceAs (Decidable (_ ∧ _))

/-- One or more words, joined by underscores. -/
def IsSnake (name : String) : Prop :=
  ∃ words, words ≠ [] ∧ (∀ w ∈ words, IsSnakeWord w) ∧
    name = String.ofList (['_'].intercalate words)

/-- A capital, with letters and digits behind it. -/
def IsCamel (name : String) : Prop :=
  ∃ c cs, name = String.ofList (c :: cs) ∧ c.isUpper = true ∧ cs.all Char.isAlphanum = true

/-- A word as it stands in a name in camel case. -/
def capitalized : List Char → List Char
  | [] => []
  | c :: cs => c.toUpper :: cs

section
variable {c : Char} {w cs : List Char} {words : List (List Char)}

/-! ## Letters and digits -/

/-- A letter or digit is a capital, or a character that words have inside. -/
theorem isAlphanum_eq (c : Char) : c.isAlphanum = (c.isUpper || isSmall c) :=
  Bool.or_assoc _ _ _

theorem isAlphanum_of_isSmall (h : isSmall c = true) : c.isAlphanum = true := by
  rw [isAlphanum_eq, h, Bool.or_true]

theorem isAlphanum_of_isUpper (h : c.isUpper = true) : c.isAlphanum = true := by
  rw [isAlphanum_eq, h, Bool.true_or]

theorem isSmall_of_isAlphanum (h : c.isAlphanum = true) (hupper : ¬ c.isUpper = true) :
    isSmall c = true := by
  rw [isAlphanum_eq, Bool.or_eq_true] at h
  exact h.resolve_left hupper

theorem ascii_of_isSmall (h : isSmall c = true) : c.toNat < 128 :=
  Text.toNat_lt_of_isAlphanum (isAlphanum_of_isSmall h)

theorem ascii_of_isUpper (h : c.isUpper = true) : c.toNat < 128 :=
  Text.toNat_lt_of_isAlphanum (isAlphanum_of_isUpper h)

theorem ascii_of_isLower (h : c.isLower = true) : c.toNat < 128 :=
  ascii_of_isSmall (Bool.or_eq_true_iff.mpr (.inl h))

theorem not_isUpper_of_isSmall (h : isSmall c = true) : ¬ c.isUpper = true :=
  Text.of_ascii (P := fun c => isSmall c = true → ¬ c.isUpper = true) (by decide +kernel)
    (ascii_of_isSmall h) h

theorem toLower_of_isSmall (h : isSmall c = true) : c.toLower = c :=
  Text.of_ascii (P := fun c => isSmall c = true → c.toLower = c) (by decide +kernel)
    (ascii_of_isSmall h) h

/-- A small letter and its capital. -/
theorem upper_of_isLower (h : c.isLower = true) :
    c.toUpper.isUpper = true ∧ c.toUpper.toLower = c :=
  Text.of_ascii (P := fun c => c.isLower = true → c.toUpper.isUpper = true ∧ c.toUpper.toLower = c)
    (by decide +kernel) (ascii_of_isLower h) h

/-- A capital and its small letter. -/
theorem lower_of_isUpper (h : c.isUpper = true) :
    c.toLower.isLower = true ∧ c.toLower.toUpper = c :=
  Text.of_ascii (P := fun c => c.isUpper = true → c.toLower.isLower = true ∧ c.toLower.toUpper = c)
    (by decide +kernel) (ascii_of_isUpper h) h

namespace IsSnakeWord

theorem isSmall (h : IsSnakeWord w) : ∀ c ∈ w, isSmall c = true := by
  cases w with
  | nil => exact h.elim
  | cons c cs =>
      exact List.forall_mem_cons.mpr
        ⟨Bool.or_eq_true_iff.mpr (.inl h.1), List.all_eq_true.mp h.2⟩

theorem underscore_not_mem (h : IsSnakeWord w) : '_' ∉ w := fun hmem =>
  absurd (h.isSmall _ hmem) (by decide)

theorem isAlphanum_capitalized (h : IsSnakeWord w) :
    (capitalized w).all Char.isAlphanum = true := by
  rw [List.all_eq_true]
  cases w with
  | nil => exact h.elim
  | cons c cs =>
      exact List.forall_mem_cons.mpr ⟨isAlphanum_of_isUpper (upper_of_isLower h.1).1,
        fun d hd => isAlphanum_of_isSmall (List.all_eq_true.mp h.2 d hd)⟩

end IsSnakeWord

/-! ## From underscores to capitals -/

theorem splitWords_eq_splitOn (cs : List Char) : splitWords cs = cs.splitOn '_' := by
  induction cs with
  | nil => rfl
  | cons c cs ih =>
      obtain ⟨w, ws, hwords⟩ := List.exists_cons_of_ne_nil (List.splitOn_ne_nil '_' cs)
      rw [splitWords, List.splitOn_cons_eq_if_modifyHead, ih]
      simp only [hwords, beq_iff_eq, List.modifyHead_cons]

theorem splitWords_intercalate (hne : words ≠ []) (h : ∀ w ∈ words, IsSnakeWord w) :
    splitWords (['_'].intercalate words) = words := by
  rw [splitWords_eq_splitOn]
  exact List.splitOn_intercalate '_' (fun w hw => (h w hw).underscore_not_mem) hne

theorem lowerFrom_of_isSnakeWord (h : IsSnakeWord w) : Text.lowerFrom [] w = w := by
  have hkept : w.map Char.toLower = w.map id := List.map_congr_left fun c hc =>
    toLower_of_isSmall (h.isSmall c hc)
  rw [Text.lowerFrom_of_ascii fun c hc => ascii_of_isSmall (h.isSmall c hc), hkept, List.map_id]

theorem camelWord_of_isSnakeWord (h : IsSnakeWord w) : camelWord w = capitalized w := by
  cases w with
  | nil => exact h.elim
  | cons c cs =>
      have hascii := ascii_of_isSmall (h.isSmall c List.mem_cons_self)
      unfold camelWord
      rw [lowerFrom_of_isSnakeWord h]
      exact congrArg (· ++ cs) (Text.upperChar_of_ascii hascii)

theorem snakeToCamel_intercalate (hne : words ≠ []) (h : ∀ w ∈ words, IsSnakeWord w) :
    snakeToCamel (String.ofList (['_'].intercalate words)) =
      String.ofList (words.flatMap capitalized) := by
  rw [snakeToCamel, String.toList_ofList, splitWords_intercalate hne h]
  exact congrArg String.ofList
    (List.flatMap_congr fun w hw => camelWord_of_isSnakeWord (h w hw))

/-! ## From capitals to underscores -/

theorem snakeChar_of_isSmall (h : isSmall c = true) : snakeChar c = [c] := by
  refine if_neg ?_
  rw [Text.isUpper_of_ascii (ascii_of_isSmall h)]
  exact not_isUpper_of_isSmall h

theorem snakeChar_of_isUpper (h : c.isUpper = true) : snakeChar c = ['_', c.toLower] := by
  rw [snakeChar, Text.isUpper_of_ascii (ascii_of_isUpper h), if_pos h,
    Text.lowerChar_of_ascii (ascii_of_isUpper h)]

theorem flatMap_snakeChar_capitalized (h : IsSnakeWord w) :
    (capitalized w).flatMap snakeChar = '_' :: w := by
  cases w with
  | nil => exact h.elim
  | cons c cs =>
      have hsmall := List.all_eq_true.mp h.2
      have hrest : cs.flatMap snakeChar = cs := by
        rw [List.flatMap_congr fun d hd => snakeChar_of_isSmall (hsmall d hd),
          List.flatMap_singleton']
      rw [capitalized, List.flatMap_cons, snakeChar_of_isUpper (upper_of_isLower h.1).1,
        (upper_of_isLower h.1).2, hrest]
      rfl

/-- An underscore more, and one stands before every word. -/
theorem cons_intercalate (w : List Char) (ws : List (List Char)) :
    '_' :: ['_'].intercalate (w :: ws) = (w :: ws).flatMap ('_' :: ·) := by
  induction ws generalizing w with
  | nil => rw [List.intercalate_singleton, List.flatMap_singleton]
  | cons v ws ih =>
      rw [List.intercalate_cons_cons, List.flatMap_cons, ← ih v, List.append_assoc,
        List.singleton_append, List.cons_append]

/-- Of all capitals only the first gets no underscore. -/
theorem cons_camelToSnake (h : IsSnakeWord w) (cs : List Char) :
    '_' :: (camelToSnake (String.ofList (capitalized w ++ cs))).toList =
      (capitalized w ++ cs).flatMap snakeChar := by
  cases w with
  | nil => exact h.elim
  | cons c rest =>
      have hupper : Text.isUpper c.toUpper = true := by
        have hupper := (upper_of_isLower h.1).1
        rw [Text.isUpper_of_ascii (ascii_of_isUpper hupper), hupper]
      rw [camelToSnake, String.toList_ofList, capitalized, List.cons_append]
      dsimp only
      rw [String.toList_ofList, List.flatMap_cons, snakeChar, if_pos hupper, if_pos hupper,
        List.cons_append]

theorem camelToSnake_flatMap (hne : words ≠ []) (h : ∀ w ∈ words, IsSnakeWord w) :
    camelToSnake (String.ofList (words.flatMap capitalized)) =
      String.ofList (['_'].intercalate words) := by
  obtain ⟨w, ws, rfl⟩ := List.exists_cons_of_ne_nil hne
  have hchars : '_' :: (camelToSnake (String.ofList ((w :: ws).flatMap capitalized))).toList =
      '_' :: ['_'].intercalate (w :: ws) := by
    calc
      _ = ((w :: ws).flatMap capitalized).flatMap snakeChar :=
        cons_camelToSnake (h w List.mem_cons_self) (ws.flatMap capitalized)
      _ = (w :: ws).flatMap fun w => (capitalized w).flatMap snakeChar := List.flatMap_assoc
      _ = (w :: ws).flatMap ('_' :: ·) :=
        List.flatMap_congr fun w hw => flatMap_snakeChar_capitalized (h w hw)
      _ = '_' :: ['_'].intercalate (w :: ws) := (cons_intercalate w ws).symm
  rw [← (List.cons.inj hchars).2, String.ofList_toList]

/-! ## Words in camel case -/

/-- Letters and digits are what is left of a word, and further words. -/
theorem exists_words_of_isAlphanum (h : cs.all Char.isAlphanum = true) :
    ∃ (rest : List Char) (words : List (List Char)), rest.all isSmall = true ∧
      (∀ w ∈ words, IsSnakeWord w) ∧ cs = rest ++ words.flatMap capitalized := by
  induction cs with
  | nil => exact ⟨[], [], rfl, List.forall_mem_nil _, rfl⟩
  | cons c cs ih =>
      rw [List.all_cons, Bool.and_eq_true] at h
      obtain ⟨rest, words, hrest, hwords, rfl⟩ := ih h.2
      by_cases hupper : c.isUpper = true
      · -- What was left so far is the rest of the word that starts here.
        have hword : IsSnakeWord (c.toLower :: rest) := ⟨(lower_of_isUpper hupper).1, hrest⟩
        refine ⟨[], (c.toLower :: rest) :: words, rfl,
          List.forall_mem_cons.mpr ⟨hword, hwords⟩, ?_⟩
        rw [List.nil_append, List.flatMap_cons, capitalized, (lower_of_isUpper hupper).2,
          List.cons_append]
      · refine ⟨c :: rest, words, ?_, hwords, rfl⟩
        rw [List.all_cons, isSmall_of_isAlphanum h.1 hupper, hrest, Bool.true_and]

theorem isCamel_iff {name : String} :
    IsCamel name ↔ ∃ words, words ≠ [] ∧ (∀ w ∈ words, IsSnakeWord w) ∧
      name = String.ofList (words.flatMap capitalized) := by
  constructor
  · rintro ⟨c, cs, rfl, hupper, hcs⟩
    obtain ⟨rest, words, hrest, hwords, rfl⟩ := exists_words_of_isAlphanum hcs
    have hword : IsSnakeWord (c.toLower :: rest) := ⟨(lower_of_isUpper hupper).1, hrest⟩
    refine ⟨(c.toLower :: rest) :: words, List.cons_ne_nil _ _,
      List.forall_mem_cons.mpr ⟨hword, hwords⟩, ?_⟩
    rw [List.flatMap_cons, capitalized, (lower_of_isUpper hupper).2, List.cons_append]
  · rintro ⟨words, hne, hwords, rfl⟩
    have hall : (words.flatMap capitalized).all Char.isAlphanum = true := by
      rw [List.all_flatMap, List.all_eq_true]
      exact fun w hw => (hwords w hw).isAlphanum_capitalized
    obtain ⟨w, ws, rfl⟩ := List.exists_cons_of_ne_nil hne
    have hw := hwords w List.mem_cons_self
    cases w with
    | nil => exact hw.elim
    | cons c cs =>
        exact ⟨c.toUpper, cs ++ ws.flatMap capitalized, rfl, (upper_of_isLower hw.1).1,
          (Bool.and_eq_true_iff.mp hall).2⟩

end

/-! ## The changes of case -/

section
variable {name : String}

theorem snakeToCamel_of_isSnake (h : IsSnake name) :
    IsCamel (snakeToCamel name) ∧ camelToSnake (snakeToCamel name) = name := by
  obtain ⟨words, hne, hwords, rfl⟩ := h
  rw [snakeToCamel_intercalate hne hwords]
  exact ⟨isCamel_iff.mpr ⟨words, hne, hwords, rfl⟩, camelToSnake_flatMap hne hwords⟩

theorem camelToSnake_of_isCamel (h : IsCamel name) :
    IsSnake (camelToSnake name) ∧ snakeToCamel (camelToSnake name) = name := by
  obtain ⟨words, hne, hwords, rfl⟩ := isCamel_iff.mp h
  rw [camelToSnake_flatMap hne hwords]
  exact ⟨⟨words, hne, hwords, rfl⟩, snakeToCamel_intercalate hne hwords⟩

end

theorem trampoline_inj {a b : String} (ha : IsCamel a) (hb : IsCamel b)
    (h : trampoline a = trampoline b) : a = b := by
  have hsnake : camelToSnake a = camelToSnake b := (String.append_left_inj _).mp h
  rw [← (camelToSnake_of_isCamel ha).2, hsnake, (camelToSnake_of_isCamel hb).2]

/-- Each change of case takes the names of one style to the names of the other and undoes the other
change. So callbacks of different names have trampolines of different names. -/
theorem caseChanges_inverse :
    (∀ name, IsSnake name →
      IsCamel (snakeToCamel name) ∧ camelToSnake (snakeToCamel name) = name) ∧
    (∀ name, IsCamel name →
      IsSnake (camelToSnake name) ∧ snakeToCamel (camelToSnake name) = name) ∧
    ∀ a b, IsCamel a → IsCamel b → a ≠ b → trampoline a ≠ trampoline b :=
  ⟨fun _ => snakeToCamel_of_isSnake, fun _ => camelToSnake_of_isCamel,
    fun _ _ ha hb hne h => hne (trampoline_inj ha hb h)⟩

/-- Capitals in a row, words of one letter and a digit. -/
theorem caseChanges_channel :
    IsSnake "new_i_o_channel2" ∧ IsCamel "NewIOChannel2" ∧ IsCamel "NewIoChannel2" ∧
    snakeToCamel "new_i_o_channel2" = "NewIOChannel2" ∧
    camelToSnake "NewIOChannel2" = "new_i_o_channel2" ∧
    trampoline "NewIOChannel2" ≠ trampoline "NewIoChannel2" := by
  have hsnake : IsSnake "new_i_o_channel2" :=
    ⟨["new".toList, "i".toList, "o".toList, "channel2".toList], by decide, by decide,
      by decide +kernel⟩
  have hcamel : IsCamel "NewIOChannel2" :=
    ⟨'N', "ewIOChannel2".toList, by decide +kernel, by decide, by decide⟩
  have hother : IsCamel "NewIoChannel2" :=
    ⟨'N', "ewIoChannel2".toList, by decide +kernel, by decide, by decide⟩
  obtain ⟨hsnakes, hcamels, hapart⟩ := caseChanges_inverse
  have hsplit : camelToSnake "NewIOChannel2" = "new_i_o_channel2" := by decide +kernel
  have hback := (hcamels _ hcamel).2
  rw [hsplit] at hback
  have hforth := (hsnakes _ hsnake).2
  rw [hback] at hforth
  exact ⟨hsnake, hcamel, hother, hback, hforth, hapart _ _ hcamel hother (by decide)⟩

end Introspect.Naming
