import Introspect.Binding.Types
import Introspect.Proofs.Documents
import Introspect.Proofs.Literals
import Introspect.Proofs.Quoting
import Introspect.Proofs.Shortest
import Mathlib.Data.List.TakeWhile

/-!
# Constants keep their values

A literal is read by its type: a truth value, a whole number of 64 bits, a binary number that the
decimal in the text is rounded to, or a quoted text. The literal that is written for a value reads
back as the value. Then the line goes through the scan for directives like any other. A truth value
or a number has no slash and comes out as it went in; but a text may contain what looks like a
directive, and that is taken out of the literal. The line still shows a literal, of a shorter text.
-/

namespace Introspect.Binding.Constant

open Source (Block Plain HasDirective strip)

/-! ## Reading literals -/

/-- The number that is written in decimal digits. -/
def readNatural? (ds : List Char) : Option Nat :=
  if ds ≠ [] ∧ ds.all Char.isDigit then some (Nat.ofDigitChars 10 ds 0) else none

/-- The number that is written in decimal digits, with its sign. -/
def readInteger? : List Char → Option Int
  | '-' :: ds => (readNatural? ds).map fun n : Nat => -(n : Int)
  | ds => (readNatural? ds).map fun n : Nat => (n : Int)

/-- The characters before the first `c`, and those behind it where there is one. -/
def cut (c : Char) (cs : List Char) : List Char × Option (List Char) :=
  (cs.takeWhile (· ≠ c), (cs.dropWhile (· ≠ c)).tail?)

/-- The digits of a number that may have a point among them, and how many stand behind it. -/
def readDigits? (cs : List Char) : Option (Nat × Nat) :=
  match cut '.' cs with
  | (whole, none) => (readNatural? whole).map (·, 0)
  | (whole, some fraction) =>
      if whole ≠ [] ∧ fraction ≠ [] then
        (readNatural? (whole ++ fraction)).map (·, fraction.length)
      else none

/-- Digits with a point among them or a power of ten behind them, or both. -/
def readDecimal? (cs : List Char) : Option Decimal :=
  match cut 'e' cs with
  | (digits, none) =>
      if '.' ∈ digits then (readDigits? digits).map fun (n, places) => ⟨n, -(places : Int)⟩
      else none
  | (digits, some power) => do
      let (n, places) ← readDigits? digits
      let e ← readInteger? power
      return ⟨n, e - places⟩

/-- The floating-point number that is written in decimal. -/
def readFloat? : List Char → Option Binary64
  | '-' :: cs => (readDecimal? cs).map fun d => d.toBinary.neg
  | cs => (readDecimal? cs).map Decimal.toBinary

/-- The value that a literal of a type denotes. -/
def read? (type literal : String) : Option ConstantValue :=
  if type = "bool" then
    if literal = "true" then some (.bool true)
    else if literal = "false" then some (.bool false)
    else none
  else if type = "i64" then
    ((readInteger? literal.toList).filter fun i =>
      Int64.minValue.toInt ≤ i ∧ i ≤ Int64.maxValue.toInt).map .int
  else if type = "f64" then
    ((readFloat? literal.toList).filter fun x => !x.isInfinite).map .float
  else if type = "&str" then (Text.readQuoted literal).map .text
  else none

/-! ## Whole numbers -/

theorem readNatural?_of_digits {ds : List Char} (hne : ds ≠ []) (h : ∀ d ∈ ds, d.isDigit) :
    readNatural? ds = some (Nat.ofDigitChars 10 ds 0) := if_pos ⟨hne, List.all_eq_true.mpr h⟩

theorem readNatural?_toDigits (n : Nat) : readNatural? (Nat.toDigits 10 n) = some n := by
  rw [readNatural?_of_digits Nat.toDigits_ne_nil Json.isDigit_of_mem_digits,
    Nat.ofDigitChars_ten_toDigits]

theorem ne_of_isDigit {c d : Char} (hd : d.isDigit) (hc : c.isDigit = false) : d ≠ c := by
  rintro rfl
  rw [hc] at hd
  cases hd

theorem readInteger?_toDigits (n : Nat) : readInteger? (Nat.toDigits 10 n) = some n := by
  unfold readInteger?
  split
  · next heq =>
      have := Json.isDigit_of_mem_digits (n := n) '-' (by rw [heq]; exact List.mem_cons_self)
      exact absurd this (by decide)
  · rw [readNatural?_toDigits]
    rfl

theorem readInteger?_toString (i : Int) : readInteger? (toString i).toList = some i := by
  cases i with
  | ofNat n =>
      rw [show toString (Int.ofNat n) = Nat.repr n from rfl, Nat.toList_repr]
      exact readInteger?_toDigits n
  | negSucc n =>
      rw [show toString (Int.negSucc n) = "-" ++ Nat.repr (n + 1) from rfl, String.toList_append,
        Nat.toList_repr, show "-".toList = ['-'] from rfl, List.singleton_append, readInteger?,
        readNatural?_toDigits]
      rfl

/-! ## Binary numbers -/

theorem cut_of_not_mem {c : Char} {cs : List Char} (h : c ∉ cs) : cut c cs = (cs, none) := by
  have hall : ∀ d ∈ cs, decide (d ≠ c) = true := fun d hd => decide_eq_true fun heq => h (heq ▸ hd)
  rw [cut, List.takeWhile_eq_self_iff.mpr hall, List.dropWhile_eq_nil_iff.mpr hall]
  rfl

theorem cut_append {c : Char} {xs ys : List Char} (h : c ∉ xs) :
    cut c (xs ++ c :: ys) = (xs, some ys) := by
  have hall : ∀ d ∈ xs, decide (d ≠ c) = true := fun d hd => decide_eq_true fun heq => h (heq ▸ hd)
  rw [cut, List.takeWhile_append_of_pos hall, List.dropWhile_append_of_pos hall,
    List.takeWhile_cons_of_neg (by simp), List.dropWhile_cons_of_neg (by simp), List.append_nil]
  rfl

theorem not_mem_of_digits {c : Char} {ds : List Char} (h : ∀ d ∈ ds, d.isDigit)
    (hc : c.isDigit = false) : c ∉ ds := fun hmem => ne_of_isDigit (h c hmem) hc rfl

theorem readDigits?_of_digits {ds : List Char} (hne : ds ≠ []) (h : ∀ d ∈ ds, d.isDigit) :
    readDigits? ds = some (Nat.ofDigitChars 10 ds 0, 0) := by
  rw [readDigits?, cut_of_not_mem (not_mem_of_digits h (by decide))]
  dsimp only
  rw [readNatural?_of_digits hne h]
  rfl

theorem readDigits?_point {whole fraction : List Char} (hwhole : whole ≠ [])
    (hfraction : fraction ≠ [])
    (h : ∀ d ∈ whole ++ fraction, d.isDigit) :
    readDigits? (whole ++ '.' :: fraction) =
      some (Nat.ofDigitChars 10 (whole ++ fraction) 0, fraction.length) := by
  have hpoint : '.' ∉ whole :=
    not_mem_of_digits (fun d hd => h d (List.mem_append_left _ hd)) (by decide)
  rw [readDigits?, cut_append hpoint]
  dsimp only
  rw [if_pos ⟨hwhole, hfraction⟩,
    readNatural?_of_digits (List.append_ne_nil_of_left_ne_nil hwhole _) h]
  rfl

/-- Digits on both sides of a point make up a decimal. -/
theorem readDecimal?_point {whole fraction : List Char} (hwhole : whole ≠ [])
    (hfraction : fraction ≠ []) (h : ∀ d ∈ whole ++ fraction, d.isDigit) :
    readDecimal? (whole ++ '.' :: fraction) =
      some ⟨Nat.ofDigitChars 10 (whole ++ fraction) 0, -(fraction.length : Int)⟩ := by
  have hpower : 'e' ∉ whole ++ '.' :: fraction := by
    have hdigits := not_mem_of_digits h (c := 'e') (by decide)
    rw [List.mem_append, not_or] at hdigits ⊢
    exact ⟨hdigits.1, List.not_mem_cons_of_ne_of_not_mem (by decide) hdigits.2⟩
  rw [readDecimal?, cut_of_not_mem hpower]
  dsimp only
  rw [if_pos (by simp), readDigits?_point hwhole hfraction h]
  rfl

theorem isDigit_of_mem_zeros {n : Nat} {c : Char} (h : c ∈ List.replicate n '0') : c.isDigit := by
  rw [List.eq_of_mem_replicate h]
  decide

/-- Zeros behind the digits multiply the number. -/
theorem readDecimal?_extended (n k : Nat) :
    ∃ d, readDecimal? (Nat.toDigits 10 n ++ List.replicate k '0' ++ ".0".toList) = some d ∧
      d.value = Decimal.value ⟨n, k⟩ := by
  have hall : ∀ c ∈ Nat.toDigits 10 n ++ List.replicate k '0' ++ ['0'], c.isDigit := by
    intro c hc
    rcases List.mem_append.mp hc with hc | hc
    · exact (List.mem_append.mp hc).elim (Json.isDigit_of_mem_digits c) isDigit_of_mem_zeros
    · rw [List.mem_singleton.mp hc]
      decide
  refine ⟨_, @readDecimal?_point _ ['0'] (by simp [Nat.toDigits_ne_nil])
    (List.cons_ne_nil _ _) hall, ?_⟩
  rw [Nat.ofDigitChars_append, Nat.ofDigitChars_append, Nat.ofDigitChars_ten_toDigits,
    Nat.ofDigitChars_replicate_zero, Nat.ofDigitChars_cons, Nat.ofDigitChars_nil, Decimal.value,
    Decimal.value, zpow_natCast, List.length_singleton]
  push_cast
  rw [zpow_neg_one]
  ring

/-- Zeros in front of the digits do not count, wherever the point is. -/
theorem readDecimal?_padded {n zeros places : Nat} {padded : List Char}
    (hpadded : List.replicate zeros '0' ++ Nat.toDigits 10 n = padded) (hplaces : 0 < places)
    (hlength : places + 1 ≤ padded.length) :
    readDecimal? (padded.take (padded.length - places) ++
      '.' :: padded.drop (padded.length - places)) = some ⟨n, -(places : Int)⟩ := by
  have hall : ∀ c ∈ padded, c.isDigit := by
    intro c hc
    rw [← hpadded] at hc
    exact (List.mem_append.mp hc).elim isDigit_of_mem_zeros (Json.isDigit_of_mem_digits c)
  have hfraction : (padded.drop (padded.length - places)).length = places := by
    rw [List.length_drop]
    omega
  rw [readDecimal?_point ?_ ?_ (by rwa [List.take_append_drop])]
  · rw [List.take_append_drop, hfraction, ← hpadded, Nat.ofDigitChars_append,
      Nat.ofDigitChars_replicate_zero, Nat.mul_zero, Nat.ofDigitChars_ten_toDigits]
  · rw [← List.length_pos_iff, List.length_take]
    omega
  · rw [← List.length_pos_iff, hfraction]
    exact hplaces

theorem readDecimal?_positional (d : Decimal) :
    ∃ d', readDecimal? d.positional.toList = some d' ∧ d'.value = d.value := by
  unfold Decimal.positional
  dsimp only
  split
  · next h =>
      obtain ⟨k, hk⟩ := Int.eq_ofNat_of_zero_le h
      rw [String.toList_append, String.toList_ofList, hk, Int.toNat_natCast]
      obtain ⟨d', hread, hvalue⟩ := readDecimal?_extended d.digits k
      refine ⟨d', hread, ?_⟩
      rw [hvalue, Decimal.value, Decimal.value, hk]
  · next h =>
      rw [String.toList_ofList]
      refine ⟨_, readDecimal?_padded rfl (by omega) ?_, ?_⟩
      · rw [List.length_append, List.length_replicate]
        omega
      · rw [Decimal.value, Decimal.value, show -((-d.exponent).toNat : Int) = d.exponent by omega]

theorem readDecimal?_scientific (d : Decimal) :
    readDecimal? (d.scientific false).toList = some d := by
  have hdigits : ∀ c ∈ Nat.toDigits 10 d.digits, c.isDigit := Json.isDigit_of_mem_digits
  have hvalue : Nat.ofDigitChars 10 (Nat.toDigits 10 d.digits) 0 = d.digits :=
    Nat.ofDigitChars_ten_toDigits
  have hread : ∀ (ds cs : List Char) (places : Nat), Nat.toDigits 10 d.digits = ds → 'e' ∉ cs →
      readDigits? cs = some (d.digits, places) → ds.length = places + 1 →
        readDecimal? (cs ++ 'e' :: (toString (d.exponent + (ds.length - 1 : Nat))).toList) =
        some d := by
    intro ds cs places hds he hcs hlength
    rw [readDecimal?, cut_append he]
    dsimp only
    rw [hcs, readInteger?_toString, hlength]
    dsimp only [Option.bind_eq_bind, Option.bind_some, Option.pure_def]
    rw [Nat.add_sub_cancel, Int.add_sub_cancel]
  have hsign :
      (if (false && decide (0 ≤ d.exponent + ((Nat.toDigits 10 d.digits).length - 1 : Nat))) = true
      then "e+" else "e") = "e" := if_neg (by simp)
  unfold Decimal.scientific
  dsimp only
  rw [hsign, String.toList_append, String.toList_append, String.toList_ofList, List.append_assoc]
  show readDecimal? (_ ++ 'e' :: _) = _
  have hno : ∀ {cs : List Char}, (∀ c ∈ cs, c.isDigit) → 'e' ∉ cs :=
    fun h => not_mem_of_digits h (by decide)
  cases hds : Nat.toDigits 10 d.digits with
  | nil => exact absurd hds Nat.toDigits_ne_nil
  | cons first more =>
      rw [hds] at hdigits hvalue
      cases more with
      | nil =>
          refine hread _ [first] 0 hds (hno hdigits) ?_ rfl
          rw [readDigits?_of_digits (List.cons_ne_nil _ _) hdigits, hvalue]
      | cons second rest =>
          refine hread _ (first :: '.' :: second :: rest) (rest.length + 1) hds ?_ ?_ rfl
          · have := hno hdigits
            rw [List.mem_cons, not_or] at this ⊢
            exact ⟨this.1, List.not_mem_cons_of_ne_of_not_mem (by decide) this.2⟩
          · have hpoint := @readDigits?_point [first] (second :: rest)
              (List.cons_ne_nil _ _) (List.cons_ne_nil _ _) hdigits
            rw [List.singleton_append, List.singleton_append, hvalue] at hpoint
            exact hpoint

theorem cut_cases (c : Char) (cs : List Char) :
    cut c cs = (cs, none) ∨ ∃ xs ys, cut c cs = (xs, some ys) ∧ cs = xs ++ c :: ys := by
  induction cs with
  | nil => exact .inl rfl
  | cons d cs ih =>
      by_cases hd : d = c
      · subst hd
        exact .inr ⟨[], cs, cut_append List.not_mem_nil, rfl⟩
      · have hcons : cut c (d :: cs) = (d :: (cut c cs).1, (cut c cs).2) := by
          rw [cut, List.takeWhile_cons_of_pos (by simpa using hd),
            List.dropWhile_cons_of_pos (by simpa using hd)]
          rfl
        rw [hcons]
        rcases ih with h | ⟨xs, ys, h, rfl⟩
        · rw [h]
          exact .inl rfl
        · rw [h]
          exact .inr ⟨d :: xs, ys, rfl, rfl⟩

/-- What a number is read from starts with a digit and has no slash. -/
def Numeral (cs : List Char) : Prop := (∃ d rest, cs = d :: rest ∧ d.isDigit) ∧ '/' ∉ cs

theorem numeral_of_digits {ds : List Char} (hne : ds ≠ []) (h : ∀ d ∈ ds, d.isDigit) :
    Numeral ds := by
  obtain ⟨d, rest, rfl⟩ := List.exists_cons_of_ne_nil hne
  exact ⟨⟨d, rest, rfl, h d List.mem_cons_self⟩, not_mem_of_digits h (by decide)⟩

theorem Numeral.append {xs ys : List Char} (h : Numeral xs) (hys : '/' ∉ ys) :
    Numeral (xs ++ ys) := by
  obtain ⟨⟨d, rest, rfl, hd⟩, hxs⟩ := h
  exact ⟨⟨d, rest ++ ys, rfl, hd⟩, by rw [List.mem_append, not_or]; exact ⟨hxs, hys⟩⟩

theorem digits_of_readNatural? {ds : List Char} {n : Nat} (h : readNatural? ds = some n) :
    ds ≠ [] ∧ ∀ d ∈ ds, d.isDigit := by
  rw [readNatural?, Option.ite_none_right_eq_some, List.all_eq_true] at h
  exact h.1

theorem no_slash_of_readInteger? {ds : List Char} {i : Int} (h : readInteger? ds = some i) :
    '/' ∉ ds := by
  have hdigits : ∀ {ds : List Char} {f : Nat → Int}, (readNatural? ds).map f = some i →
    '/' ∉ ds := by
    intro ds f h
    obtain ⟨n, hn, -⟩ := Option.map_eq_some_iff.mp h
    exact not_mem_of_digits (digits_of_readNatural? hn).2 (by decide)
  unfold readInteger? at h
  split at h
  · exact List.not_mem_cons_of_ne_of_not_mem (by decide) (hdigits h)
  · exact hdigits h

theorem numeral_of_readDigits? {cs : List Char} {n : Nat × Nat} (h : readDigits? cs = some n) :
    Numeral cs := by
  unfold readDigits? at h
  rcases cut_cases '.' cs with hcut | ⟨whole, fraction, hcut, rfl⟩
  · rw [hcut] at h
    obtain ⟨m, hm, -⟩ := Option.map_eq_some_iff.mp h
    exact numeral_of_digits (digits_of_readNatural? hm).1 (digits_of_readNatural? hm).2
  · rw [hcut] at h
    dsimp only at h
    split at h
    · next hne =>
        obtain ⟨m, hm, -⟩ := Option.map_eq_some_iff.mp h
        have hdigits := (digits_of_readNatural? hm).2
        rw [List.forall_mem_append] at hdigits
        refine (numeral_of_digits hne.1 hdigits.1).append ?_
        exact List.not_mem_cons_of_ne_of_not_mem (by decide)
          (not_mem_of_digits hdigits.2 (by decide))
    · cases h

theorem numeral_of_readDecimal? {cs : List Char} {d : Decimal} (h : readDecimal? cs = some d) :
    Numeral cs := by
  unfold readDecimal? at h
  rcases cut_cases 'e' cs with hcut | ⟨digits, power, hcut, rfl⟩
  · rw [hcut] at h
    dsimp only at h
    split at h
    · obtain ⟨n, hn, -⟩ := Option.map_eq_some_iff.mp h
      exact numeral_of_readDigits? hn
    · cases h
  · rw [hcut] at h
    obtain ⟨n, hn, h⟩ := Option.bind_eq_some_iff.mp h
    obtain ⟨e, he, -⟩ := Option.bind_eq_some_iff.mp h
    refine (numeral_of_readDigits? hn).append ?_
    exact List.not_mem_cons_of_ne_of_not_mem (by decide) (no_slash_of_readInteger? he)

theorem readFloat?_of_numeral {cs : List Char} {d : Decimal} (h : readDecimal? cs = some d) :
    readFloat? cs = some d.toBinary ∧ readFloat? ('-' :: cs) = some d.toBinary.neg := by
  obtain ⟨⟨c, rest, hcs, hc⟩, -⟩ := numeral_of_readDecimal? h
  constructor
  · unfold readFloat?
    split
    · obtain ⟨rfl, -⟩ := List.cons.inj hcs
      exact absurd hc (by decide)
    · rw [h]
      rfl
  · rw [readFloat?, h]
    rfl

/-- The text of a finite number is read as the number. -/
theorem readFloat?_text {x : Binary64} (hx : x.Finite) :
    readFloat? (x.text literalStyle).toList = some x ∧ '/' ∉ (x.text literalStyle).toList := by
  have hbound : x.magnitude < 1 <<< 63 := Nat.mod_lt _ (by decide)
  have hread : ∀ (sign : Bool) {cs : List Char} {d : Decimal}, x.negative = sign →
      readDecimal? cs = some d → d.value = (Decimal.shortest .up x).value →
        readFloat? ((if sign then "-" else "").toList ++ cs) = some x ∧
          '/' ∉ (if sign then "-" else "").toList ++ cs := by
    intro sign cs d hsign hcs hvalue
    have hbinary : d.toBinary = Binary64.ofMagnitude false x.magnitude := by
      rw [Decimal.toBinary_congr hvalue, ← Decimal.magnitude_shortest .up hx]
      have hpositive := Binary64.negative_ofRatio false (Decimal.shortest .up x).ratio.1
        (Decimal.shortest .up x).ratio.2
      exact (hpositive ▸ Binary64.ofMagnitude_magnitude _).symm
    have hslash := (numeral_of_readDecimal? hcs).2
    obtain ⟨hplus, hminus⟩ := readFloat?_of_numeral hcs
    rw [hbinary] at hplus hminus
    cases sign with
    | true =>
        refine ⟨?_, List.not_mem_cons_of_ne_of_not_mem (by decide) hslash⟩
        show readFloat? ('-' :: cs) = some x
        rw [hminus, Binary64.neg, Binary64.magnitude_ofMagnitude hbound,
          Binary64.negative_ofMagnitude hbound, Bool.not_false, ← hsign,
          Binary64.ofMagnitude_magnitude]
    | false =>
        refine ⟨?_, hslash⟩
        show readFloat? cs = some x
        rw [hplus, ← hsign, Binary64.ofMagnitude_magnitude]
  obtain ⟨hnan, hinfinite⟩ := Binary64.finite_iff.mp hx
  obtain ⟨d, hd, hvalue⟩ := readDecimal?_positional (Decimal.shortest .up x)
  unfold Binary64.text
  rw [hnan, hinfinite, if_neg Bool.false_ne_true]
  dsimp only
  rw [if_neg Bool.false_ne_true]
  split
  · rw [String.toList_append]
    exact hread _ rfl hd hvalue
  · rw [String.toList_append]
    exact hread _ rfl (readDecimal?_scientific _) rfl

/-! ## The literal of a value -/

/-- A value has a literal of its own: it is no infinity and no NaN. -/
def HasLiteral : ConstantValue → Prop
  | .float x => x.Finite
  | _ => True

/-- Whether the value of a constant is a text. -/
def IsText : ConstantValue → Prop
  | .text _ => True
  | _ => False

/-- The literal of a value reads back as the value, and only a text can bring a slash into it. -/
theorem exists_literal {v : ConstantValue} (hfits : v.Fits) (h : HasLiteral v) :
    ∃ type literal, literal? v = some (type, literal) ∧ read? type literal = some v ∧
      Plain type.toList ∧ (¬ IsText v → '/' ∉ literal.toList) := by
  cases v with
  | bool b =>
      refine ⟨_, _, rfl, ?_, by decide, fun _ => ?_⟩
      · cases b <;> rfl
      · cases b <;> decide
  | int i =>
      have hread := readInteger?_toString i
      have hword : Int64.minValue.toInt ≤ i ∧ i ≤ Int64.maxValue.toInt := hfits
      refine ⟨_, _, rfl, ?_, by decide, fun _ => no_slash_of_readInteger? hread⟩
      rw [read?, if_neg (by decide), if_pos rfl, hread, Option.filter_some,
        if_pos (decide_eq_true hword)]
      rfl
  | float x =>
      obtain ⟨hread, hslash⟩ := readFloat?_text h
      obtain ⟨hnan, hinfinite⟩ := Binary64.finite_iff.mp h
      refine ⟨"f64", x.text literalStyle, ?_, ?_, by decide, fun _ => hslash⟩
      · rw [literal?, hnan, hinfinite]
        rfl
      · rw [read?, if_neg (by decide), if_neg (by decide), if_pos rfl, hread, Option.filter_some,
          hinfinite]
        rfl
  | text s =>
      refine ⟨_, _, rfl, ?_, by decide, fun hno => absurd trivial hno⟩
      rw [read?, if_neg (by decide), if_neg (by decide), if_neg (by decide), if_pos rfl,
        Text.readQuoted_quoted]
      rfl

/-! ## The line of a constant -/

/-- The line of a constant up to its value. -/
def opening (name type : String) : String :=
  "pub const " ++ Naming.itemName name ++ ": " ++ type ++ " ="

/-- The line that defines a constant. -/
def definition (name type literal : String) : String :=
  opening name type ++ " " ++ literal ++ ";"

theorem toList_definition (name type literal : String) : (definition name type literal).toList =
    (opening name type).toList ++ ' ' :: (literal.toList ++ [';']) := by
  simp [definition]

theorem definition_inj {name type literal literal' : String}
    (h : definition name type literal = definition name type literal') : literal = literal' := by
  have hlists := congrArg String.toList h
  rw [toList_definition, toList_definition] at hlists
  have hrest := (List.cons.inj (List.append_cancel_left hlists)).2
  exact String.toList_inj.mp (List.append_cancel_right hrest)

theorem plain_itemName {name : String} (h : Plain name.toList) :
    Plain (Naming.itemName name).toList := by
  unfold Naming.itemName
  split
  · rw [String.toList_append]
    exact h.append (by decide) (by decide)
  split
  · rw [String.toList_append]
    exact .append_of_no_slash (by decide) h
  · exact h

theorem plain_opening {name type : String} (hname : Plain name.toList) (htype : Plain type.toList) :
    Plain (opening name type).toList := by
  simp only [opening, String.toList_append, List.append_assoc]
  refine .append_of_no_slash (by decide) ((plain_itemName hname).append ?_ (by simp))
  exact .append_of_no_slash (by decide) (htype.append (by decide) (by decide))

/-- The value `w` is the value `v`, or a text with some characters of the text `v` left out. -/
def Shortened (v w : ConstantValue) : Prop :=
  w = v ∨ ∃ s t, v = .text s ∧ w = .text t ∧ t.toList.Sublist s.toList

/-- What the scan for directives leaves of a literal is a literal of the same type. -/
theorem exists_shown {v : ConstantValue} {type literal : String}
    (hliteral : literal? v = some (type, literal)) (hread : read? type literal = some v)
    (hslash : ¬ IsText v → '/' ∉ literal.toList) :
    ∃ shown w, Source.stripped (literal.toList ++ [';']) = shown.toList ++ [';'] ∧
      read? type shown = some w ∧ Shortened v w ∧ (w = v → shown = literal) ∧
      (¬ IsText v → w = v) := by
  by_cases htext : IsText v
  · cases v with
    | text s =>
        cases hliteral
        obtain ⟨ds, hds, hstripped⟩ :=
          Text.exists_stripped_flatMap (show '/' ∉ ['"', ';'] by decide) s.toList
        have hquoted : ∀ cs : List Char, (Text.quoted (String.ofList cs)).toList ++ [';'] =
            ['"'] ++ (cs.flatMap Text.quotedChar ++ ['"', ';']) := by
          intro cs
          simp [Text.quoted]
        refine ⟨Text.quoted (String.ofList ds), .text (String.ofList ds), ?_, ?_,
          .inr ⟨s, _, rfl, rfl, ?_⟩, ?_, fun h => absurd trivial h⟩
        · rw [hquoted, ← hstripped, ← Source.stripped_append_of_no_slash (by decide), ← hquoted,
            String.ofList_toList]
        · rw [read?, if_neg (by decide), if_neg (by decide), if_neg (by decide), if_pos rfl,
            Text.readQuoted_quoted]
          rfl
        · rwa [String.toList_ofList]
        · intro h
          rw [ConstantValue.text.inj h]
    | bool b | int i | float x => cases htext
  · refine ⟨literal, v, ?_, hread, .inl rfl, fun _ => rfl, fun _ => rfl⟩
    have hno : '/' ∉ literal.toList ++ [';'] := by
      rw [List.mem_append, not_or]
      exact ⟨hslash htext, by decide⟩
    have h := @Source.stripped_append_of_no_slash _ [] hno
    rwa [List.append_nil, show Source.stripped [] = [] from rfl, List.append_nil] at h

/-- A constant with a literal is one line that defines it by a literal of its type. That literal
denotes the value exactly when no directive stands in the line as it was composed; none does unless
the value is a text, and then the literal still denotes a part of the text. -/
theorem exists_line_of_value {c : Introspect.Constant} {v : ConstantValue}
    (hname : Plain c.name.toList) (hv : c.value = some v) (hfits : v.Fits) (hvalue : HasLiteral v) :
    ∃ type literal, literal? v = some (type, literal) ∧ read? type literal = some v ∧
      ∃ shown w, (Block.ofSteps (steps c)).lines = [definition c.name type shown] ∧
        read? type shown = some w ∧ Shortened v w ∧
        (w = v ↔ ¬ HasDirective (definition c.name type literal).toList) ∧
        (¬ IsText v → w = v) := by
  obtain ⟨type, literal, hliteral, hread, htype, hslash⟩ := exists_literal hfits hvalue
  obtain ⟨shown, w, hstripped, hshown, hshort, hsame, hnumber⟩ := exists_shown hliteral hread hslash
  have hstrip : strip (definition c.name type literal) = definition c.name type shown := by
    rw [← String.toList_inj, Source.toList_strip, toList_definition, toList_definition, ← hstripped,
      Source.stripped_append (plain_opening hname htype) (by simp)]
    exact congrArg _ (Source.stripped_append_of_no_slash (show '/' ∉ [' '] by decide))
  have hsteps : steps c = [.line (definition c.name type literal)] := by
    rw [steps, hv, Option.bind_some, hliteral]
    simp [definition, opening, String.append_assoc]
  refine ⟨type, literal, hliteral, hread, shown, w, ?_, hshown, hshort, ?_, hnumber⟩
  · rw [hsteps, Block.lines_ofSteps_line, hstrip]
  · rw [← Source.strip_eq_self_iff, hstrip]
    constructor
    · intro h
      rw [hsame h]
    · intro h
      rw [definition_inj h, hread] at hshown
      exact (Option.some.inj hshown).symm

/-- A pattern for file names that looks like a directive. -/
def globConstant : Introspect.Constant := { name := "GLOB", value := some (.text "/*use:src*/") }

theorem line_of_answer : ∃ shown,
    (Block.ofSteps (steps { name := "ANSWER", value := some (.int 42) })).lines =
        [definition "ANSWER" "i64" shown] ∧ read? "i64" shown = some (.int 42) := by
  obtain ⟨type, literal, hliteral, -, shown, w, hlines, hshown, -, -, hnumber⟩ :=
    exists_line_of_value (c := { name := "ANSWER", value := some (.int 42) }) (by decide) rfl
      (show Int64.minValue.toInt ≤ 42 ∧ 42 ≤ Int64.maxValue.toInt by decide) trivial
  cases hliteral
  exact ⟨shown, hlines, by rw [hshown, hnumber id]⟩

/-- The literal of the pattern is that of an empty text. -/
theorem glob_not_kept :
    (Block.ofSteps (steps globConstant)).lines = [definition "GLOB" "&str" (Text.quoted "")] ∧
      read? "&str" (Text.quoted "") ≠ globConstant.value := by
  constructor
  · decide +kernel
  · rw [show read? "&str" (Text.quoted "") = (Text.readQuoted (Text.quoted "")).map .text from rfl,
      Text.readQuoted_quoted]
    decide

end Introspect.Binding.Constant
