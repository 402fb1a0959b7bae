import Introspect.Proofs.Literals

/-!
# The scan of a printed value

A printed value is scanned back without a fault, whatever follows it, if only its numbers are
integers of a word: a floating-point number is rounded once more when it is read. The induction
is on the value. Lists and objects are printed alike, part by part, and both statements about them
say the same of the parts: behind the first one every part has its comma and its gap, and the gap is
nothing to the scan. The fuel is enough by the length of the text alone, twice as much as there are
characters, and one less inside a bracket.
-/

namespace Introspect.Json

mutual

/-- Every number is an integer of a word. -/
def Exact : Json → Prop
  | .number (.int i) => IsWord i
  | .number (.float _) => False
  | .list xs => ExactItems xs
  | .object ms => ExactMembers ms
  | _ => True

/-- Every number in the items is an integer of a word. -/
def ExactItems : List Json → Prop
  | [] => True
  | x :: rest => x.Exact ∧ ExactItems rest

/-- Every number in the members is an integer of a word. -/
def ExactMembers : List (String × Json) → Prop
  | [] => True
  | (_, x) :: rest => x.Exact ∧ ExactMembers rest

end

theorem exactItems_iff {xs : List Json} : ExactItems xs ↔ ∀ x ∈ xs, x.Exact := by
  induction xs with
  | nil => simp [ExactItems]
  | cons x rest ih => rw [ExactItems, List.forall_mem_cons, ih]

theorem exactMembers_iff {ms : List (String × Json)} :
    ExactMembers ms ↔ ∀ m ∈ ms, m.2.Exact := by
  induction ms with
  | nil => simp [ExactMembers]
  | cons m rest ih => rw [ExactMembers, List.forall_mem_cons, ih]

mutual

/-- The scan of a value, with no fault in it. -/
def scanned : Json → Scan
  | .null => .null
  | .bool b => .bool b
  | .number n => .number (.ok n)
  | .text s => .text (.ok s)
  | .list xs => .list (scannedItems xs) .closed
  | .object ms => .object (scannedMembers ms) .closed

/-- What is scanned where the items of a list are written. -/
def scannedItems : List Json → List Scan
  | [] => []
  | x :: rest => x.scanned :: scannedItems rest

/-- What is scanned where the members of an object are written. -/
def scannedMembers : List (String × Json) → List (Reading String × Scan)
  | [] => []
  | (key, x) :: rest => (.ok key, x.scanned) :: scannedMembers rest

end

/-! ## Gaps -/

/-- There are only gaps in the text. -/
def IsBlank (cs : List Char) : Prop := ∀ c ∈ cs, isGap c = true

theorem isBlank_lineBreak (level : Nat) : IsBlank (lineBreak level).toList := by
  intro c hc
  rw [lineBreak, String.toList_append, List.mem_append] at hc
  rcases hc with hc | hc
  · rw [List.mem_singleton.mp hc]
    rfl
  · rw [String.toList_ofList] at hc
    obtain ⟨-, rfl⟩ := List.mem_replicate.mp hc
    rfl

theorem skipGap_append {gap : List Char} (h : IsBlank gap) (cs : List Char) :
    skipGap (gap ++ cs) = skipGap cs := by
  rw [skipGap, List.dropWhile_append_of_pos h, skipGap]

theorem skipGap_cons {c : Char} (cs : List Char) (h : isGap c = false) :
    skipGap (c :: cs) = c :: cs := by
  rw [skipGap, List.dropWhile_cons_of_neg (by simp [h])]

theorem scanValue_append {gap : List Char} (h : IsBlank gap) (fuel : Nat) (cs : List Char) :
    scanValue fuel (gap ++ cs) = scanValue fuel cs := by
  cases fuel with
  | zero => rfl
  | succ fuel => rw [scanValue, skipGap_append h, scanValue]

/-! ## Parts -/

/-- The parts of a list or an object, each behind a gap, and behind a comma unless it is the
first. -/
def partsText (gap : List Char) : Bool → List String → List Char
  | _, [] => []
  | first, p :: rest =>
      (if first then [] else [',']) ++ (gap ++ (p.toList ++ partsText gap false rest))

/-- The gap before the closing bracket, which is only there behind a part. -/
def lastGap (gap : List Char) : List String → List Char
  | [] => []
  | _ :: _ => gap

theorem isBlank_lastGap {gap : List Char} (h : IsBlank gap) (ps : List String) :
    IsBlank (lastGap gap ps) := by
  cases ps with
  | nil => exact fun c hc => nomatch hc
  | cons p ps => exact h

theorem toList_intercalate_parts (gap p : String) (ps : List String) :
    (("," ++ gap).intercalate (p :: ps)).toList = p.toList ++ partsText gap.toList false ps := by
  induction ps generalizing p with
  | nil => rw [String.intercalate_singleton, partsText, List.append_nil]
  | cons q ps ih =>
      rw [String.intercalate_cons_cons, String.toList_append, String.toList_append, ih,
        String.toList_append, partsText]
      simp

/-- Between its brackets a container has its parts. -/
theorem toList_spread (level : Nat) (left right : String) (ps : List String) :
    (spread level left right ps).toList =
      left.toList ++ (partsText (lineBreak (level + 1)).toList true ps ++
        (lastGap (lineBreak level).toList ps ++ right.toList)) := by
  cases ps with
  | nil =>
      rw [spread, String.toList_append, partsText, lastGap]
      rfl
  | cons p ps =>
      rw [spread]
      · rw [String.toList_append, String.toList_append, String.toList_append, String.toList_append,
          toList_intercalate_parts, partsText, lastGap]
        simp
      · exact List.cons_ne_nil p ps

/-- What follows a part, a comma, a gap or a bracket, goes on no number. -/
theorem endsNumber_partsText {gap gap' : List Char} (hgap' : IsBlank gap') (ps : List String)
    {bracket : Char} (rest : List Char) (hbracket : EndsNumber (bracket :: rest)) :
    EndsNumber (partsText gap false ps ++ (gap' ++ bracket :: rest)) := by
  cases ps with
  | cons p ps => exact endsNumber_cons _ (by decide)
  | nil =>
      cases gap' with
      | nil => exact hbracket
      | cons c gap' =>
          have hblank : isGap c = true := hgap' c List.mem_cons_self
          simp only [isGap, Bool.or_eq_true, decide_eq_true_eq] at hblank
          refine endsNumber_cons _ ?_
          rcases hblank with ((rfl | rfl) | rfl) | rfl <;> decide

/-! ## Single values -/

theorem scanWord_append (value : Scan) (word rest : List Char) :
    scanWord value word (word ++ rest) = (value, some rest) := by
  induction word with
  | nil => rfl
  | cons w word ih => rw [List.cons_append, scanWord, if_pos rfl, ih]

/-- The first character of a number is no other character of the grammar. -/
theorem ne_of_number {c d : Char} (h : c = '-' ∨ c.isDigit = true) (hd : d.isDigit = false)
    (hminus : d ≠ '-') : c ≠ d := by
  rintro rfl
  rcases h with h | h
  · exact hminus h
  · rw [hd] at h
    cases h

theorem isGap_of_number {c : Char} (h : c = '-' ∨ c.isDigit = true) : isGap c = false := by
  simp only [isGap, ne_of_number (d := ' ') h (by decide) (by decide),
    ne_of_number (d := '\n') h (by decide) (by decide),
    ne_of_number (d := '\t') h (by decide) (by decide),
    ne_of_number (d := '\r') h (by decide) (by decide), decide_false, Bool.or_false]

theorem scanValue_number {c : Char} (fuel : Nat) (cs : List Char) (h : c = '-' ∨ c.isDigit = true) :
    scanValue (fuel + 1) (c :: cs) = scanNumber (c :: cs) := by
  rw [scanValue, skipGap_cons cs (isGap_of_number h)]
  simp only [ne_of_number (d := 'n') h (by decide) (by decide),
    ne_of_number (d := 't') h (by decide) (by decide),
    ne_of_number (d := 'f') h (by decide) (by decide),
    ne_of_number (d := '"') h (by decide) (by decide),
    ne_of_number (d := '[') h (by decide) (by decide),
    ne_of_number (d := '\x7b') h (by decide) (by decide), if_false]
  rw [if_pos h]

theorem exists_head_int (i : Int) :
    ∃ c cs, (toString i).toList = c :: cs ∧ (c = '-' ∨ c.isDigit = true) := by
  cases i with
  | ofNat n =>
      obtain ⟨d, ds, hds, -⟩ := digits_cases n
      refine ⟨d, ds, ?_, Or.inr (isDigit_of_mem_digits (n := n) d ?_)⟩
      · rw [← hds, ← Nat.toList_repr]
        rfl
      · rw [hds]
        exact List.mem_cons_self
  | negSucc n =>
      refine ⟨'-', (Nat.repr (n + 1)).toList, ?_, Or.inl rfl⟩
      rw [show toString (Int.negSucc n) = "-" ++ Nat.repr (n + 1) from rfl, String.toList_append]
      rfl

theorem prettyAt_eq_compact (level : Nat) {j : Json} (h : j.depth = 0) :
    j.prettyAt level = j.compact := by
  cases j with
  | list xs => cases h
  | object ms => cases h
  | null | bool b | number n | text s => rw [prettyAt] <;> nofun

theorem toList_prettyAt_list (level : Nat) (xs : List Json) :
    (prettyAt level (.list xs)).toList =
      '[' :: (partsText (lineBreak (level + 1)).toList true (prettyItems (level + 1) xs) ++
        (lastGap (lineBreak level).toList (prettyItems (level + 1) xs) ++ [']'])) := by
  rw [prettyAt, toList_spread]
  rfl

theorem toList_prettyAt_object (level : Nat) (ms : List (String × Json)) :
    (prettyAt level (.object ms)).toList =
      '\x7b' :: (partsText (lineBreak (level + 1)).toList true (prettyMembers (level + 1) ms) ++
        (lastGap (lineBreak level).toList (prettyMembers (level + 1) ms) ++ ['\x7d'])) := by
  rw [prettyAt, toList_spread]
  rfl

/-- A printed value starts with a character that is no blank and closes nothing. -/
theorem exists_head_prettyAt (level : Nat) {j : Json} (hj : j.Exact) :
    ∃ c cs, (j.prettyAt level).toList = c :: cs ∧ isGap c = false ∧ c ≠ ']' := by
  cases j with
  | list xs => exact ⟨'[', _, toList_prettyAt_list level xs, by decide, by decide⟩
  | object ms => exact ⟨'\x7b', _, toList_prettyAt_object level ms, by decide, by decide⟩
  | null =>
      rw [prettyAt_eq_compact level rfl, compact]
      exact ⟨'n', _, rfl, by decide, by decide⟩
  | bool b =>
      rw [prettyAt_eq_compact level rfl, compact]
      cases b with
      | true => exact ⟨'t', _, rfl, by decide, by decide⟩
      | false => exact ⟨'f', _, rfl, by decide, by decide⟩
  | number n =>
      rw [prettyAt_eq_compact level rfl, compact]
      cases n with
      | float x => exact hj.elim
      | int i =>
          obtain ⟨c, cs, h, hc⟩ := exists_head_int i
          exact ⟨c, cs, h, isGap_of_number hc, ne_of_number hc (by decide) (by decide)⟩
  | text s =>
      rw [prettyAt_eq_compact level rfl, compact, textLiteral, String.toList_ofList]
      exact ⟨'"', _, rfl, by decide, by decide⟩

theorem scanValue_compact {j : Json} {rest : List Char} (fuel : Nat) (hdepth : j.depth = 0)
    (hj : j.Exact) (hrest : EndsNumber rest) :
    scanValue (fuel + 1) (j.compact.toList ++ rest) = (j.scanned, some rest) := by
  cases j with
  | list xs => cases hdepth
  | object ms => cases hdepth
  | null => exact scanWord_append .null ['u', 'l', 'l'] rest
  | bool b =>
      cases b with
      | true => exact scanWord_append (.bool true) ['r', 'u', 'e'] rest
      | false => exact scanWord_append (.bool false) ['a', 'l', 's', 'e'] rest
  | number n =>
      cases n with
      | float x => exact hj.elim
      | int i =>
          obtain ⟨c, cs, h, hc⟩ := exists_head_int i
          have hscan := scanNumber_int hj hrest
          rw [compact, show Number.text (.int i) = toString i from rfl]
          rw [h, List.cons_append] at hscan ⊢
          rw [scanValue_number fuel _ hc, hscan]
          rfl
  | text s =>
      obtain ⟨htext, hscan⟩ := scanText_textLiteral s rest
      rw [compact, htext]
      show scanTextValue _ = _
      rw [scanTextValue, hscan]
      rfl

/-! ## Lists and objects -/

theorem scanValue_list {cs out : List Char} {items : List Scan} {ending : Ending} {fuel : Nat}
    (h : scanItems fuel true cs = (items, ending, some out)) :
    scanValue (fuel + 1) ('[' :: cs) = (.list items ending, some out) := by
  show ((Scan.list (scanItems fuel true cs).1 (scanItems fuel true cs).2.1,
    (scanItems fuel true cs).2.2)) = _
  rw [h]

theorem scanValue_object {cs out : List Char} {members : List (Reading String × Scan)}
    {ending : Ending} {fuel : Nat}
    (h : scanMembers fuel true cs = (members, ending, some out)) :
    scanValue (fuel + 1) ('\x7b' :: cs) = (.object members ending, some out) := by
  show ((Scan.object (scanMembers fuel true cs).1 (scanMembers fuel true cs).2.1,
    (scanMembers fuel true cs).2.2)) = _
  rw [h]

theorem scanItems_closed {gap : List Char} (hgap : IsBlank gap) (fuel : Nat) (first : Bool)
    (rest : List Char) :
    scanItems (fuel + 1) first (gap ++ ']' :: rest) = ([], .closed, some rest) := by
  rw [scanItems, skipGap_append hgap, skipGap_cons rest (by decide)]
  rfl

theorem scanMembers_closed {gap : List Char} (hgap : IsBlank gap) (fuel : Nat) (first : Bool)
    (rest : List Char) :
    scanMembers (fuel + 1) first (gap ++ '\x7d' :: rest) = ([], .closed, some rest) := by
  rw [scanMembers, skipGap_append hgap, skipGap_cons rest (by decide)]
  rfl

theorem scanItems_part {gap cs rest out : List Char} {c : Char} {v : Scan} {items : List Scan}
    {ending : Ending} {fuel : Nat} (first : Bool) (hgap : IsBlank gap) (hblank : isGap c = false)
    (hbracket : c ≠ ']') (hv : scanValue fuel (c :: cs) = (v, some rest))
    (hrest : scanItems fuel false rest = (items, ending, some out)) :
    scanItems (fuel + 1) first ((if first then [] else [',']) ++ (gap ++ c :: cs)) =
      (v :: items, ending, some out) := by
  rw [scanItems]
  cases first with
  | true =>
      simp only [if_true, List.nil_append, skipGap_append hgap, skipGap_cons cs hblank,
        if_neg hbracket, hv, hrest]
  | false =>
      rw [if_neg (by decide), List.singleton_append, skipGap_cons _ (by decide)]
      simp only [skipGap_append hgap, skipGap_cons cs hblank, if_neg hbracket, hv, hrest]
      rfl

theorem scanMembers_part {gap cs rest out : List Char} {key : String} {v : Scan}
    {members : List (Reading String × Scan)} {ending : Ending} {fuel : Nat} (first : Bool)
    (hgap : IsBlank gap) (hv : scanValue fuel cs = (v, some rest))
    (hrest : scanMembers fuel false rest = (members, ending, some out)) :
    scanMembers (fuel + 1) first
        ((if first then [] else [',']) ++ (gap ++ ((textLiteral key).toList ++ ':' :: ' ' :: cs))) =
      ((.ok key, v) :: members, ending, some out) := by
  obtain ⟨htext, hscan⟩ := scanText_textLiteral key (':' :: ' ' :: cs)
  have hv' : scanValue fuel (' ' :: cs) = (v, some rest) := by
    rw [← hv]
    have hblank : IsBlank [' '] := fun c hc => by cases List.mem_singleton.mp hc; rfl
    exact scanValue_append hblank fuel cs
  have hcolon : skipGap (':' :: ' ' :: cs) = ':' :: ' ' :: cs := skipGap_cons _ (by decide)
  rw [htext, scanMembers]
  cases first with
  | true =>
      simp only [if_true, List.nil_append, skipGap_append hgap,
        skipGap_cons (c := '"') _ (by decide), hscan, hcolon, hv', hrest]
      rfl
  | false =>
      rw [if_neg (by decide), List.singleton_append, skipGap_cons _ (by decide)]
      simp only [skipGap_append hgap, skipGap_cons (c := '"') _ (by decide), hscan, hcolon, hv',
        hrest]
      rfl

/-! ## Values -/

mutual

/-- A printed value is scanned back. -/
theorem scanValue_prettyAt : ∀ (j : Json) (level fuel : Nat) (rest : List Char), j.Exact →
    EndsNumber rest → 2 * (j.prettyAt level).toList.length ≤ fuel + 1 →
      scanValue (fuel + 1) ((j.prettyAt level).toList ++ rest) = (j.scanned, some rest)
  | .null => by
      intro level fuel rest hj hrest _
      rw [prettyAt_eq_compact level rfl]
      exact scanValue_compact fuel rfl hj hrest
  | .bool b => by
      intro level fuel rest hj hrest _
      rw [prettyAt_eq_compact level rfl]
      exact scanValue_compact fuel rfl hj hrest
  | .number n => by
      intro level fuel rest hj hrest _
      rw [prettyAt_eq_compact level rfl]
      exact scanValue_compact fuel rfl hj hrest
  | .text s => by
      intro level fuel rest hj hrest _
      rw [prettyAt_eq_compact level rfl]
      exact scanValue_compact fuel rfl hj hrest
  | .list xs => by
      intro level fuel rest hj _ hfuel
      have hitems := scanItems_prettyItems xs (level + 1) fuel true (lineBreak (level + 1)).toList
        (lastGap (lineBreak level).toList (prettyItems (level + 1) xs)) rest hj
        (isBlank_lineBreak _) (isBlank_lastGap (isBlank_lineBreak _) _)
      rw [toList_prettyAt_list] at hfuel ⊢
      simp only [List.length_cons, List.length_append, List.length_nil] at hfuel hitems
      simp only [List.cons_append, List.append_assoc, List.nil_append]
      exact scanValue_list (hitems (by omega))
  | .object ms => by
      intro level fuel rest hj _ hfuel
      have hmembers := scanMembers_prettyMembers ms (level + 1) fuel true
        (lineBreak (level + 1)).toList
        (lastGap (lineBreak level).toList (prettyMembers (level + 1) ms)) rest hj
        (isBlank_lineBreak _) (isBlank_lastGap (isBlank_lineBreak _) _)
      rw [toList_prettyAt_object] at hfuel ⊢
      simp only [List.length_cons, List.length_append, List.length_nil] at hfuel hmembers
      simp only [List.cons_append, List.append_assoc, List.nil_append]
      exact scanValue_object (hmembers (by omega))

theorem scanItems_prettyItems : ∀ (xs : List Json) (level fuel : Nat) (first : Bool)
    (gap gap' rest : List Char), ExactItems xs → IsBlank gap → IsBlank gap' →
      2 * (partsText gap first (prettyItems level xs) ++ gap').length < fuel →
        scanItems fuel first (partsText gap first (prettyItems level xs) ++ (gap' ++ ']' :: rest)) =
          (scannedItems xs, .closed, some rest)
  | [] => by
      intro level fuel first gap gap' rest _ _ hgap' hfuel
      obtain ⟨fuel, rfl⟩ := Nat.exists_eq_succ_of_ne_zero (Nat.ne_zero_of_lt hfuel)
      exact scanItems_closed hgap' fuel first rest
  | x :: xs => by
      intro level fuel first gap gap' rest hxs hgap hgap' hfuel
      obtain ⟨c, cs, hhead, hblank, hbracket⟩ := exists_head_prettyAt level hxs.1
      rw [prettyItems, partsText] at hfuel ⊢
      have hlength := congrArg List.length hhead
      simp only [List.length_append, List.length_cons] at hfuel hlength
      -- One character at least is scanned here, which pays for the step and for what follows.
      obtain ⟨fuel, rfl⟩ : ∃ n, fuel = n + 1 + 1 := ⟨fuel - 2, by omega⟩
      have hx := scanValue_prettyAt x level fuel
        (partsText gap false (prettyItems level xs) ++ (gap' ++ ']' :: rest)) hxs.1
        (endsNumber_partsText hgap' _ rest (endsNumber_cons _ (by decide))) (by omega)
      have hrest := scanItems_prettyItems xs level (fuel + 1) false gap gap' rest hxs.2 hgap hgap'
        (by rw [List.length_append]; omega)
      rw [hhead] at hx ⊢
      simp only [List.append_assoc, List.cons_append] at hx ⊢
      exact scanItems_part first hgap hblank hbracket hx hrest

theorem scanMembers_prettyMembers : ∀ (ms : List (String × Json)) (level fuel : Nat) (first : Bool)
    (gap gap' rest : List Char), ExactMembers ms → IsBlank gap → IsBlank gap' →
      2 * (partsText gap first (prettyMembers level ms) ++ gap').length < fuel →
        scanMembers fuel first
          (partsText gap first (prettyMembers level ms) ++ (gap' ++ '\x7d' :: rest)) =
          (scannedMembers ms, .closed, some rest)
  | [] => by
      intro level fuel first gap gap' rest _ _ hgap' hfuel
      obtain ⟨fuel, rfl⟩ := Nat.exists_eq_succ_of_ne_zero (Nat.ne_zero_of_lt hfuel)
      exact scanMembers_closed hgap' fuel first rest
  | (key, x) :: ms => by
      intro level fuel first gap gap' rest hms hgap hgap' hfuel
      rw [prettyMembers, partsText] at hfuel ⊢
      simp only [String.toList_append, List.length_append] at hfuel
      have hcolon : ": ".toList = [':', ' '] := rfl
      rw [hcolon] at hfuel
      simp only [List.length_cons] at hfuel
      obtain ⟨fuel, rfl⟩ : ∃ n, fuel = n + 1 + 1 := ⟨fuel - 2, by omega⟩
      have hx := scanValue_prettyAt x level fuel
        (partsText gap false (prettyMembers level ms) ++ (gap' ++ '\x7d' :: rest)) hms.1
        (endsNumber_partsText hgap' _ rest (endsNumber_cons _ (by decide))) (by omega)
      have hrest := scanMembers_prettyMembers ms level (fuel + 1) false gap gap' rest hms.2 hgap
        hgap' (by rw [List.length_append]; omega)
      simp only [String.toList_append, hcolon, List.append_assoc, List.cons_append, List.nil_append]
      exact scanMembers_part first hgap hx hrest

end

/-- The whole text of a value is its scan, and nothing follows. -/
theorem scan_pretty {j : Json} (hj : j.Exact) : scan j.pretty.toList = (j.scanned, false) := by
  have hvalue := scanValue_prettyAt j 0 (2 * j.pretty.toList.length + 1) [] hj endsNumber_nil
    (by rw [pretty]; omega)
  rw [List.append_nil] at hvalue
  rw [scan, pretty]
  rw [pretty] at hvalue
  rw [hvalue]
  rfl

end Introspect.Json
