import Introspect.Json.Printer
import Introspect.Json.Scan

/-!
# Texts and numbers in JSON

What is written for a text or an integer is scanned back as that text or integer, whatever stands
behind it. A text ends at its closing quote, and no quote that is part of it can be taken for that
one, since it stands behind a backslash. A number ends where no digit follows, so there the scan
depends on what stands behind; the digits themselves are those of a word, and nothing is dropped
from them.
-/

namespace Introspect.Json

/-! ## Text -/

/-- How the scan sees a character of a text. -/
def pieceOf (c : Char) : Piece :=
  if c.toNat < 0x20 ∧ c ≠ '\n' ∧ c ≠ '\r' ∧ c ≠ '\t' ∧ c ≠ '\x08' ∧ c ≠ '\x0c' then .unit c.toNat
  else .char c

theorem pieces_char {c : Char} (rest : List Char) (hquote : c ≠ '"') (hslash : c ≠ '\\')
    (hcontrol : ¬ c.toNat < 0x20) :
    pieces (c :: rest) = (.char c :: (pieces rest).1, (pieces rest).2) := by
  rw [pieces.eq_def]
  simp only [if_neg hquote, if_neg hslash, if_neg hcontrol]

theorem pieces_shortEscape {e c : Char} (rest : List Char) (he : e ≠ 'u')
    (h : shortEscape e = some c) :
    pieces ('\\' :: e :: rest) = (.char c :: (pieces rest).1, (pieces rest).2) := by
  rw [pieces.eq_def]
  simp only [if_neg (show '\\' ≠ '"' by decide), if_neg he, h]
  rfl

/-- The four digits of a number below the first printable character give that number. -/
theorem pieces_unit {n : Nat} (rest : List Char) (h : n < 0x20) :
    pieces (['\\', 'u'] ++ Text.hexFixed 4 n ++ rest) =
      (.unit n :: (pieces rest).1, (pieces rest).2) := by
  have hdigits : ∀ n < 0x20, hexValue4 (Text.hexDigit (n / 16 / 16 / 16 % 16))
      (Text.hexDigit (n / 16 / 16 % 16)) (Text.hexDigit (n / 16 % 16)) (Text.hexDigit (n % 16)) =
        some n := by decide
  show pieces ('\\' :: 'u' :: Text.hexDigit (n / 16 / 16 / 16 % 16) ::
    Text.hexDigit (n / 16 / 16 % 16) :: Text.hexDigit (n / 16 % 16) :: Text.hexDigit (n % 16) ::
      rest) = _
  rw [pieces.eq_def]
  simp only [if_neg (show '\\' ≠ '"' by decide), hdigits n h]
  rfl

theorem pieces_escaped (c : Char) (rest : List Char) :
    pieces (escaped c ++ rest) = (pieceOf c :: (pieces rest).1, (pieces rest).2) := by
  unfold escaped pieceOf
  -- Seven characters have an escape of one letter; other control characters are written as units.
  split
  · next h => subst h; exact pieces_shortEscape rest (by decide) rfl
  split
  · next h => subst h; exact pieces_shortEscape rest (by decide) rfl
  split
  · next h => subst h; exact pieces_shortEscape rest (by decide) rfl
  split
  · next h => subst h; exact pieces_shortEscape rest (by decide) rfl
  split
  · next h => subst h; exact pieces_shortEscape rest (by decide) rfl
  split
  · next h => subst h; exact pieces_shortEscape rest (by decide) rfl
  split
  · next h => subst h; exact pieces_shortEscape rest (by decide) rfl
  split
  · next hn hr ht hb hf hcontrol =>
      rw [if_pos ⟨hcontrol, hn, hr, ht, hb, hf⟩]
      exact pieces_unit rest hcontrol
  · next hquote hslash _ _ _ _ _ hcontrol =>
      rw [if_neg fun h => hcontrol h.1]
      exact pieces_char rest hquote hslash hcontrol

theorem pieces_flatMap_escaped (cs rest : List Char) :
    pieces (cs.flatMap escaped ++ '"' :: rest) = (cs.map pieceOf, .ok rest) := by
  induction cs with
  | nil =>
      rw [List.flatMap_nil, List.nil_append, pieces.eq_def]
      rfl
  | cons c cs ih =>
      rw [List.flatMap_cons, List.append_assoc, pieces_escaped, ih]
      rfl

/-- No character is written in halves, so joining gives the characters back. -/
theorem joinPieces_map_pieceOf (cs : List Char) : joinPieces none (cs.map pieceOf) = some cs := by
  induction cs with
  | nil => rfl
  | cons c cs ih =>
      rw [List.map_cons, pieceOf]
      split
      · next h =>
          rw [joinPieces, if_pos (Or.inl (by omega)), ih, Char.ofNat_toNat]
          rfl
      · rw [joinPieces, ih]
        rfl

/-- What is written for a text is scanned as the text. -/
theorem scanText_textLiteral (s : String) (rest : List Char) :
    (textLiteral s).toList ++ rest = '"' :: (s.toList.flatMap escaped ++ '"' :: rest) ∧
      scanText (s.toList.flatMap escaped ++ '"' :: rest) = .whole (.ok s) rest := by
  constructor
  · rw [textLiteral, String.toList_ofList]
    simp
  · rw [scanText, pieces_flatMap_escaped]
    simp only [joinPieces_map_pieceOf, String.ofList_toList]

/-! ## Numbers -/

/-- What cannot go on a number. -/
def EndsNumber (rest : List Char) : Prop :=
  ∀ c ∈ rest.head?, c.isDigit = false ∧ c ≠ '.' ∧ c ≠ 'e' ∧ c ≠ 'E'

theorem endsNumber_nil : EndsNumber [] := by
  intro c h
  cases h

theorem endsNumber_cons {c : Char} (rest : List Char)
    (h : c.isDigit = false ∧ c ≠ '.' ∧ c ≠ 'e' ∧ c ≠ 'E') : EndsNumber (c :: rest) := by
  intro d hd
  cases hd
  exact h

theorem digitRun_append {ds rest : List Char} (hds : ∀ d ∈ ds, d.isDigit = true)
    (hrest : EndsNumber rest) : digitRun (ds ++ rest) = (ds, rest) := by
  unfold digitRun
  rw [List.takeWhile_append_of_pos hds, List.dropWhile_append_of_pos hds]
  cases rest with
  | nil => simp
  | cons c rest =>
      have hc := (hrest c rfl).1
      rw [List.takeWhile_cons_of_neg (by simp [hc]), List.dropWhile_cons_of_neg (by simp [hc]),
        List.append_nil]

theorem scanPower_of_endsNumber {rest : List Char} (h : EndsNumber rest) :
    scanPower rest = .ok (none, rest) := by
  cases rest with
  | nil => rfl
  | cons c rest =>
      obtain ⟨_, _, he, hE⟩ := h c rfl
      unfold scanPower
      dsimp only
      rw [if_neg (by simp [he, hE])]

/-- Digits only make a number larger. -/
theorem le_ofDigitChars (ds : List Char) : ∀ n, n ≤ Nat.ofDigitChars 10 ds n := by
  induction ds with
  | nil => intro n; exact Nat.le_refl n
  | cons d ds ih =>
      intro n
      have := ih (10 * n + (d.toNat - '0'.toNat))
      rw [Nat.ofDigitChars_cons]
      omega

/-- The digits of a word are all taken. -/
theorem gather_eq {ds : List Char} : ∀ {n : Nat}, Nat.ofDigitChars 10 ds n ≤ wordMax →
    gather n ds = (Nat.ofDigitChars 10 ds n, []) := by
  induction ds with
  | nil => intro n _; rfl
  | cons d ds ih =>
      intro n h
      rw [Nat.ofDigitChars_cons] at h ⊢
      have hstep : n * 10 + digitValue d = 10 * n + (d.toNat - '0'.toNat) := by
        rw [digitValue, show '0'.toNat = 48 from rfl]
        omega
      have hle := le_ofDigitChars ds (10 * n + (d.toNat - '0'.toNat))
      rw [gather]
      -- The digits so far are no larger than the whole, so this one is taken as well.
      simp only [hstep]
      rw [if_pos (Nat.le_trans hle h), ih h]

theorem isDigit_of_mem_digits {n : Nat} : ∀ d ∈ Nat.toDigits 10 n, d.isDigit = true :=
  fun _ h => Nat.isDigit_of_mem_toDigits (by decide) (by decide) h

theorem head?_digits {n : Nat} (h : 0 < n) : (Nat.toDigits 10 n).head? ≠ some '0' := by
  induction n using Nat.strongRecOn with
  | ind n ih =>
      rcases Nat.lt_or_ge n 10 with hlt | hge
      · rw [Nat.toDigits_of_lt_base hlt]
        have hdigit : ∀ n < 10, 0 < n → [n.digitChar].head? ≠ some '0' := by decide
        exact hdigit n hlt h
      · have hlow : 0 < n / 10 := by omega
        have hsplit : Nat.toDigits 10 n = Nat.toDigits 10 (n / 10) ++ Nat.toDigits 10 (n % 10) := by
          rw [Nat.toDigits_append_toDigits (by decide) hlow (by omega), Nat.div_add_mod]
        rw [hsplit, List.head?_append, List.head?_eq_some_head Nat.toDigits_ne_nil, Option.some_or,
          ← List.head?_eq_some_head Nat.toDigits_ne_nil]
        exact ih (n / 10) (by omega) hlow

/-- No digit can be taken for a sign, and no zero stands before other digits. -/
theorem digits_cases (n : Nat) :
    ∃ d ds, Nat.toDigits 10 n = d :: ds ∧ d ≠ '-' ∧ ∀ e es, d :: ds ≠ '0' :: e :: es := by
  cases hds : Nat.toDigits 10 n with
  | nil => exact absurd hds Nat.toDigits_ne_nil
  | cons d ds =>
      refine ⟨d, ds, rfl, ?_, ?_⟩
      · rintro rfl
        have := isDigit_of_mem_digits (n := n) '-' (by rw [hds]; exact List.mem_cons_self)
        exact absurd this (by decide)
      · intro e es h
        rw [h] at hds
        rcases Nat.eq_zero_or_pos n with rfl | hpos
        · cases hds
        · exact head?_digits hpos (by rw [hds]; rfl)

theorem scanLexeme_digits {n : Nat} {rest : List Char} (negative : Bool) (h : EndsNumber rest) :
    scanLexeme ((if negative then ['-'] else []) ++ Nat.toDigits 10 n ++ rest) =
      .ok (⟨negative, Nat.toDigits 10 n, none, none⟩, rest) := by
  obtain ⟨d, ds, hds, hsign, hzero⟩ := digits_cases n
  have hrun : digitRun (d :: (ds ++ rest)) = (d :: ds, rest) := by
    rw [← List.cons_append, ← hds]
    exact digitRun_append isDigit_of_mem_digits h
  have hdot : ∀ cs, rest ≠ '.' :: cs := by
    rintro cs rfl
    exact (h '.' rfl).2.1 rfl
  have hpower := scanPower_of_endsNumber h
  rw [hds]
  -- Which arms of the scan are taken is decided by `hzero`, `hdot` and, with no sign, `hunsigned`.
  cases negative with
  | true =>
      show scanLexeme ('-' :: d :: (ds ++ rest)) = _
      simp only [scanLexeme, hrun, hpower]
      rfl
  | false =>
      have hunsigned : ∀ cs, d :: (ds ++ rest) ≠ '-' :: cs := by
        rintro cs heq
        exact hsign (List.cons.inj heq).1
      show scanLexeme (d :: (ds ++ rest)) = _
      simp only [scanLexeme, hrun, hpower]
      rfl

/-- An integer that a word holds, signed or not. -/
def IsWord (i : Int) : Prop := -0x8000000000000000 ≤ i ∧ i ≤ (wordMax : Int)

theorem toNumber_digits {n : Nat} (h : n ≤ wordMax) :
    Lexeme.toNumber ⟨false, Nat.toDigits 10 n, none, none⟩ = .ok (.int n) := by
  have hvalue := Nat.ofDigitChars_toDigits (b := 10) (n := n) (by decide) (by decide)
  unfold Lexeme.toNumber
  rw [gather_eq (by rw [hvalue]; exact h), hvalue]
  rfl

theorem toNumber_negative {n : Nat} (hpos : 0 < n) (h : n ≤ 0x8000000000000000) :
    Lexeme.toNumber ⟨true, Nat.toDigits 10 n, none, none⟩ = .ok (.int (-n)) := by
  have hvalue := Nat.ofDigitChars_toDigits (b := 10) (n := n) (by decide) (by decide)
  have hword : n ≤ wordMax := Nat.le_trans h (by decide)
  unfold Lexeme.toNumber
  rw [gather_eq (by rw [hvalue]; exact hword), hvalue]
  simp only [Bool.not_true, if_pos (show 0 < n ∧ n ≤ 0x8000000000000000 from ⟨hpos, h⟩)]
  rfl

/-- What is written for an integer is scanned as the integer. -/
theorem scanNumber_int {i : Int} {rest : List Char} (hi : IsWord i) (h : EndsNumber rest) :
    scanNumber ((toString i).toList ++ rest) = (.number (.ok (.int i)), some rest) := by
  unfold scanNumber
  cases i with
  | ofNat n =>
      have hlexeme := scanLexeme_digits (n := n) false h
      rw [show toString (Int.ofNat n) = Nat.repr n from rfl, Nat.toList_repr]
      rw [if_neg (by decide), List.nil_append] at hlexeme
      rw [hlexeme]
      simp only [toNumber_digits (Int.ofNat_le.mp hi.2)]
      rfl
  | negSucc n =>
      have hlexeme := scanLexeme_digits (n := n + 1) true h
      have hsmall : n + 1 ≤ 0x8000000000000000 := by
        have := hi.1
        omega
      rw [show toString (Int.negSucc n) = "-" ++ Nat.repr (n + 1) from rfl, String.toList_append,
        Nat.toList_repr, show "-".toList = ['-'] from rfl]
      rw [if_pos rfl] at hlexeme
      rw [hlexeme]
      simp only [toNumber_negative (Nat.succ_pos n) hsmall]
      rfl

end Introspect.Json
