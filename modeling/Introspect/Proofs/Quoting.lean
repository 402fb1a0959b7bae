import Introspect.Json.Scan
import Introspect.Proofs.Directives
import Mathlib.Algebra.Group.Nat.Defs

/-!
# Quoted texts

What a quoted text stands for is read from the left: a backslash opens an escape, a letter or the
code point of a character in braces, and the first quote outside an escape is the last character.
A text that is quoted reads back as itself. So it does when directives are taken out between the
quotes: they open with a slash and close with one, both of them stand for themselves, and what is
left is a quoted text again, of fewer characters.
-/

namespace Introspect.Text

open Source (stripped stripped_append_of_no_slash)

/-! ## Reading -/

/-- Where in an escape the reader stands. -/
inductive Escape
  | outside
  /-- Behind the backslash. -/
  | letter
  /-- Before the brace of a code point. -/
  | brace
  /-- Behind the first digits of a code point, with their value. -/
  | digits (count value : Nat)

/-- The character that a letter stands for after a backslash. -/
def escapeLetter? : Char → Option Char
  | 'n' => some '\n'
  | 'r' => some '\r'
  | 't' => some '\t'
  | '0' => some '\x00'
  | '\\' => some '\\'
  | '"' => some '"'
  | _ => none

/-- The characters up to the closing quote, which has to be the last one. -/
def readQuotedFrom : Escape → List Char → Option (List Char)
  | _, [] => none
  | .outside, c :: rest =>
      if c = '"' then if rest.isEmpty then some [] else none
      else if c = '\\' then readQuotedFrom .letter rest
      else if c = '\r' then none
      else (readQuotedFrom .outside rest).map (c :: ·)
  | .letter, c :: rest =>
      if c = 'u' then readQuotedFrom .brace rest
      else (escapeLetter? c).bind fun e => (readQuotedFrom .outside rest).map (e :: ·)
  | .brace, c :: rest => if c = '\x7b' then readQuotedFrom (.digits 0 0) rest else none
  | .digits count value, c :: rest =>
      if c = '\x7d' then
        if 0 < count ∧ count ≤ 6 ∧ value.isValidChar then
          (readQuotedFrom .outside rest).map (Char.ofNat value :: ·)
        else none
      else (Json.hexValue c).bind fun v =>
        readQuotedFrom (.digits (count + 1) (16 * value + v)) rest

/-- The text that a quoted text stands for. -/
def readQuoted (literal : String) : Option String :=
  match literal.toList with
  | '"' :: rest => (readQuotedFrom .outside rest).map String.ofList
  | _ => none

/-! ## Code points -/

/-- The number that hexadecimal digits go on to from `n`. -/
def ofHex (n : Nat) (ds : List Char) : Nat :=
  ds.foldl (fun n d => 16 * n + (Json.hexValue d).getD 0) n

theorem hexValue_hexDigit : ∀ m < 16, Json.hexValue (hexDigit m) = some m := by decide

theorem ofHex_hexFixed (width n : Nat) :
    ∀ a, ofHex a (hexFixed width n) = a * 16 ^ width + n % 16 ^ width := by
  induction width generalizing n with
  | zero => intro a; rw [hexFixed, Nat.pow_zero, Nat.mul_one, Nat.mod_one]; rfl
  | succ width ih =>
      intro a
      have hlast : Json.hexValue (hexDigit (n % 16)) = some (n % 16) :=
        hexValue_hexDigit _ (Nat.mod_lt _ (by decide))
      have hmod : n % 16 ^ (width + 1) = 16 * (n / 16 % 16 ^ width) + n % 16 := by
        rw [Nat.pow_succ, Nat.mul_comm, Nat.mod_mul, Nat.add_comm]
      rw [hexFixed, ofHex, List.foldl_append]
      show 16 * ofHex a (hexFixed width (n / 16)) + (Json.hexValue (hexDigit (n % 16))).getD 0 = _
      rw [ih, hlast, hmod, Nat.pow_succ, Option.getD_some, ← Nat.mul_assoc]
      generalize a * 16 ^ width = high
      omega

theorem hexFixed_add (k width n : Nat) :
    hexFixed (k + width) n = hexFixed k (n / 16 ^ width) ++ hexFixed width n := by
  induction width generalizing n with
  | zero => simp [hexFixed]
  | succ width ih =>
      rw [← Nat.add_assoc, hexFixed, ih, hexFixed, List.append_assoc, Nat.div_div_eq_div_mul,
        Nat.pow_succ, Nat.mul_comm 16]

theorem hexFixed_zero (width : Nat) : hexFixed width 0 = List.replicate width '0' := by
  induction width with
  | zero => rfl
  | succ width ih =>
      rw [hexFixed, Nat.zero_div, ih, List.replicate_succ']
      rfl

theorem length_hexFixed (width n : Nat) : (hexFixed width n).length = width := by
  induction width generalizing n with
  | zero => rfl
  | succ width ih => rw [hexFixed, List.length_append, ih]; rfl

theorem ofHex_dropWhile (ds : List Char) : ofHex 0 (ds.dropWhile (· == '0')) = ofHex 0 ds := by
  induction ds with
  | nil => rfl
  | cons d ds ih =>
      rw [List.dropWhile_cons]
      split
      · next h =>
          rw [ih, beq_iff_eq.mp h]
          rfl
      · rfl

/-- A code point has one to six digits, and they give the code point. -/
theorem hex_spec {n : Nat} (h : n < 16 ^ 6) :
    0 < (hex n).length ∧ (hex n).length ≤ 6 ∧ ofHex 0 (hex n) = n := by
  have hvalue : ofHex 0 ((hexFixed 16 n).dropWhile (· == '0')) = n := by
    rw [ofHex_dropWhile, ofHex_hexFixed, Nat.zero_mul, Nat.zero_add]
    exact Nat.mod_eq_of_lt (Nat.lt_of_lt_of_le h (by decide))
  have hlength : ((hexFixed 16 n).dropWhile (· == '0')).length ≤ 6 := by
    have hsplit : hexFixed 16 n = List.replicate 10 '0' ++ hexFixed 6 n := by
      rw [← hexFixed_zero, ← Nat.div_eq_of_lt h]
      exact hexFixed_add 10 6 n
    rw [hsplit, List.dropWhile_append_of_pos (by simp), ← length_hexFixed 6 n]
    exact (List.dropWhile_suffix _).length_le
  unfold hex
  split
  · next hnil =>
      rw [hnil] at hvalue
      exact ⟨by decide, by decide, hvalue⟩
  · next hne => exact ⟨List.length_pos_iff.mpr hne, hlength, hvalue⟩

theorem readQuotedFrom_digits {rest : List Char} : ∀ (ds : List Char) (count value : Nat),
    (∀ d ∈ ds, ∃ m < 16, d = hexDigit m) →
      readQuotedFrom (.digits count value) (ds ++ rest) =
        readQuotedFrom (.digits (count + ds.length) (ofHex value ds)) rest := by
  intro ds
  induction ds with
  | nil => intro count value _; rfl
  | cons d ds ih =>
      intro count value h
      rw [List.forall_mem_cons] at h
      obtain ⟨⟨m, hm, rfl⟩, hds⟩ := h
      have hclose : ∀ m < 16, hexDigit m ≠ '\x7d' := by decide
      rw [List.cons_append, readQuotedFrom, if_neg (hclose m hm), hexValue_hexDigit m hm,
        Option.bind_some, ih _ _ hds, List.length_cons, Nat.add_assoc, Nat.add_comm 1]
      rw [ofHex, ofHex, List.foldl_cons, hexValue_hexDigit m hm]
      rfl

/-! ## What is quoted -/

/-- A quoted character is read as the character. -/
theorem readQuotedFrom_quotedChar (c : Char) (rest : List Char) :
    readQuotedFrom .outside (quotedChar c ++ rest) = (readQuotedFrom .outside rest).map
    (c :: ·) := by
  have hletter : ∀ {e : Char}, e ≠ 'u' → escapeLetter? e = some c →
      readQuotedFrom .outside (['\\', e] ++ rest) = (readQuotedFrom .outside rest).map
      (c :: ·) := by
    intro e he hc
    show readQuotedFrom .outside ('\\' :: e :: rest) = _
    rw [readQuotedFrom, if_neg (by decide), if_pos rfl, readQuotedFrom, if_neg he, hc]
    rfl
  unfold quotedChar
  split
  · next h => subst h; exact hletter (by decide) rfl
  split
  · next h => subst h; exact hletter (by decide) rfl
  split
  · next h => subst h; exact hletter (by decide) rfl
  split
  · next h => subst h; exact hletter (by decide) rfl
  split
  · next h => subst h; exact hletter (by decide) rfl
  split
  · next h => subst h; exact hletter (by decide) rfl
  split
  · next hquote hslash _ hreturn _ _ _ =>
      rw [List.singleton_append, readQuotedFrom, if_neg hquote, if_neg hslash, if_neg hreturn]
  · have hvalid : c.toNat.isValidChar := c.valid
    have hbound : c.toNat < 16 ^ 6 := by
      rcases hvalid with h | ⟨-, h⟩
      · exact Nat.lt_trans h (by decide)
      · exact Nat.lt_trans h (by decide)
    obtain ⟨hpos, hle, hvalue⟩ := hex_spec hbound
    have hdigits : readQuotedFrom (.digits 0 0) (hex c.toNat ++ '\x7d' :: rest) = _ :=
      readQuotedFrom_digits (hex c.toNat) 0 0 fun d hd => hexDigit_of_mem_hex hd
    rw [hvalue, Nat.zero_add, readQuotedFrom, if_pos rfl, if_pos ⟨hpos, hle, hvalid⟩,
      Char.ofNat_toNat] at hdigits
    rw [← hdigits]
    simp only [List.append_assoc, List.cons_append, List.nil_append]
    rw [readQuotedFrom, if_neg (by decide), if_pos rfl, readQuotedFrom, if_pos rfl, readQuotedFrom,
      if_pos rfl]

theorem readQuoted_quoted (s : String) : readQuoted (quoted s) = some s := by
  have hbody : ∀ cs : List Char,
      readQuotedFrom .outside (cs.flatMap quotedChar ++ ['"']) = some cs := by
    intro cs
    induction cs with
    | nil => rfl
    | cons c cs ih =>
        rw [List.flatMap_cons, List.append_assoc, readQuotedFrom_quotedChar, ih]
        rfl
  have hlist : (quoted s).toList = '"' :: (s.toList.flatMap quotedChar ++ ['"']) := by
    rw [quoted, String.toList_ofList, List.cons_append]
  rw [readQuoted, hlist]
  show (readQuotedFrom .outside (s.toList.flatMap quotedChar ++ ['"'])).map String.ofList = some s
  rw [hbody, Option.map_some, String.ofList_toList]

/-! ## What is left between the quotes -/

theorem quotedChar_slash : quotedChar '/' = ['/'] := by decide

/-- A slash in a quoted text is a slash of the text. -/
theorem exists_of_flatMap_eq {tail ys : List Char} (htail : '/' ∉ tail) :
    ∀ {cs xs : List Char}, cs.flatMap quotedChar ++ tail = xs ++ '/' :: ys →
      ∃ es, es <:+ cs ∧ es.length < cs.length ∧ ys = es.flatMap quotedChar ++ tail := by
  intro cs
  induction cs with
  | nil =>
      intro xs h
      refine absurd ?_ htail
      rw [show tail = xs ++ '/' :: ys from h]
      simp
  | cons c cs ih =>
      intro xs h
      have hrest : ∀ {xs'}, cs.flatMap quotedChar ++ tail = xs' ++ '/' :: ys →
          ∃ es, es <:+ c :: cs ∧ es.length < (c :: cs).length ∧
            ys = es.flatMap quotedChar ++ tail := by
        intro xs' h'
        obtain ⟨es, hes, hlt, hys⟩ := ih h'
        exact ⟨es, hes.trans (List.suffix_cons _ _), Nat.lt_succ_of_lt hlt, hys⟩
      rw [List.flatMap_cons, List.append_assoc] at h
      rcases List.append_eq_append_iff.mp h with ⟨mid, hxs, hmid⟩ | ⟨mid, hc, hmid⟩
      · exact hrest hmid
      · cases mid with
        | nil => exact @hrest [] hmid.symm
        | cons d mid =>
            -- The slash is in the first character, which is then the slash itself.
            obtain ⟨rfl, rfl⟩ := List.cons.inj hmid
            rcases quotedChar_cases c with hself | ⟨hno, -, -⟩
            · rw [hself] at hc
              cases xs with
              | nil =>
                  obtain ⟨-, rfl⟩ := List.cons.inj hc
                  exact ⟨cs, List.suffix_cons _ _, Nat.lt_succ_self _, rfl⟩
              | cons x xs =>
                  have := congrArg List.length hc
                  simp at this
            · refine absurd ?_ hno
              rw [hc]
              simp

/-- Where directives are taken out of a quoted text, some of its characters are left, quoted. -/
theorem exists_stripped_flatMap {tail : List Char} (htail : '/' ∉ tail) (cs : List Char) :
    ∃ ds : List Char, ds.Sublist cs ∧
      stripped (cs.flatMap quotedChar ++ tail) = ds.flatMap quotedChar ++ tail := by
  induction hn : cs.length using Nat.strongRecOn generalizing cs with
  | ind n ih =>
      subst hn
      cases cs with
      | nil =>
          refine ⟨[], List.Sublist.slnil, ?_⟩
          have h := @stripped_append_of_no_slash _ [] htail
          rwa [List.append_nil, show stripped [] = [] from rfl, List.append_nil] at h
      | cons c cs =>
          obtain ⟨ds, hds, hrest⟩ := ih _ (Nat.lt_succ_self _) cs rfl
          have hkeep : ∀ {xs}, quotedChar c = xs →
              stripped (xs ++ (cs.flatMap quotedChar ++ tail)) =
                xs ++ stripped (cs.flatMap quotedChar ++ tail) →
              ∃ ds : List Char, ds.Sublist (c :: cs) ∧
                stripped ((c :: cs).flatMap quotedChar ++ tail) =
                  ds.flatMap quotedChar ++ tail := by
            intro xs hc hstrip
            refine ⟨c :: ds, hds.cons_cons c, ?_⟩
            rw [List.flatMap_cons, List.flatMap_cons, List.append_assoc, List.append_assoc, hc,
              hstrip, hrest]
          by_cases hslash : c = '/'
          · subst hslash
            cases hd : Source.directiveAt ('/' :: (cs.flatMap quotedChar ++ tail)) with
            | none => exact hkeep quotedChar_slash (Source.stripped_cons hd)
            | some d =>
                obtain ⟨after, hafter⟩ := Source.eq_of_directiveAt hd
                -- The closing slash of the directive is a slash of the text, too.
                have hclose : ('/' :: cs).flatMap quotedChar ++ tail =
                    (['/', '*'] ++ d.word ++ ':' :: d.path ++ ['*']) ++ '/' :: after := by
                  rw [List.flatMap_cons, quotedChar_slash, List.singleton_append, List.cons_append,
                    hafter]
                  simp [Source.Directive.spelled]
                obtain ⟨es, hes, hlt, rfl⟩ := exists_of_flatMap_eq htail hclose
                obtain ⟨ds', hds', hrest'⟩ := ih _ hlt es rfl
                refine ⟨ds', hds'.trans hes.sublist, ?_⟩
                rw [List.flatMap_cons, quotedChar_slash, List.singleton_append, List.cons_append,
                  Source.stripped_directive hd hafter, hrest']
          · refine hkeep rfl (stripped_append_of_no_slash ?_)
            rcases quotedChar_cases c with hc | ⟨hno, -, -⟩
            · rw [hc, List.mem_singleton]
              exact fun h => hslash h.symm
            · exact hno

end Introspect.Text
