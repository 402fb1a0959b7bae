import Introspect.Native.Memory
import Introspect.Proofs.Tables
import Introspect.Proofs.Utf8
import Mathlib.Data.List.TakeWhile

/-!
# Texts in native memory

A text that is put into native memory takes one request and is seen up to its first NUL. It is seen
the same whether it is copied or taken, and taking it gives its block back, once.

What bytes are seen as does not depend on where they came from: bytes that are a text are seen as
that text, whatever stands behind them. What is no UTF-8 is seen as replacement characters, so it is
not found again in memory when the text is put there once more; but nothing that is seen is a NUL,
and so the text is seen as itself from then on.
-/

namespace Introspect

open Text.Utf8 (Bytes)

namespace Text.Utf8

/-- Only NUL has a zero among its bytes. -/
theorem zero_mem_encodeChar {c : Char} (h : (0 : UInt8) ∈ encodeChar c) : c = '\x00' := by
  have hmax : c.toNat < 0x110000 := by
    have := toNat_cases c
    omega
  have hzero : ∀ {n : Nat}, n < 256 → (0 : UInt8) = UInt8.ofNat n → n = 0 := by
    intro n hn heq
    have hnat := congrArg UInt8.toNat heq
    rw [UInt8.toNat_ofNat_of_lt' hn] at hnat
    exact hnat.symm
  have hc : c.toNat = 0 := by
    unfold encodeChar at h
    dsimp only at h
    split at h
    · next hn => exact hzero (by omega) (List.mem_singleton.mp h)
    -- The bytes of a longer character are all marked.
    · split at h
      · simp only [List.mem_cons, List.not_mem_nil, or_false] at h
        rcases h with h | h <;> exact absurd (hzero (by omega) h) (by omega)
      · split at h
        · simp only [List.mem_cons, List.not_mem_nil, or_false] at h
          rcases h with h | h | h <;> exact absurd (hzero (by omega) h) (by omega)
        · simp only [List.mem_cons, List.not_mem_nil, or_false] at h
          rcases h with h | h | h | h <;> exact absurd (hzero (by omega) h) (by omega)
  exact Char.toNat_inj.mp hc

end Text.Utf8

/-- The bytes of a text. -/
def utf8 (s : String) : Bytes := s.toByteArray.data.toList

/-- The text before the first NUL. -/
def untilNul (s : String) : String := String.ofList (s.toList.takeWhile (· ≠ '\x00'))

theorem untilNul_of_not_mem {s : String} (h : '\x00' ∉ s.toList) : untilNul s = s := by
  have hall : s.toList.takeWhile (· ≠ '\x00') = s.toList := by
    rw [List.takeWhile_eq_self_iff]
    intro c hc
    exact decide_eq_true fun heq => h (heq ▸ hc)
  rw [untilNul, hall, String.ofList_toList]

namespace Memory

/-! ## What is seen -/

theorem visible_of_not_mem {bytes : Bytes} (h : (0 : UInt8) ∉ bytes) (tail : Bytes) :
    visible (bytes ++ 0 :: tail) = bytes := by
  rw [visible, List.takeWhile_append_of_pos]
  · simp
  · intro b hb
    exact decide_eq_true fun heq => h (heq ▸ hb)

/-- The first NUL of a text is the first zero among its bytes. -/
theorem visible_encode (cs : List Char) (tail : Bytes) :
    visible (Text.Utf8.encode cs ++ 0 :: tail) =
      Text.Utf8.encode (cs.takeWhile (· ≠ '\x00')) := by
  induction cs with
  | nil => rfl
  | cons c cs ih =>
      by_cases hc : c = '\x00'
      · subst hc
        rfl
      · have hpos : ∀ b ∈ Text.Utf8.encodeChar c, decide (b ≠ 0) = true := by
          intro b hb
          exact decide_eq_true fun heq => hc (Text.Utf8.zero_mem_encodeChar (heq ▸ hb))
        rw [Text.Utf8.encode, List.flatMap_cons, ← Text.Utf8.encode, List.append_assoc, visible,
          List.takeWhile_append_of_pos hpos, ← visible, ih, List.takeWhile_cons,
          if_pos (decide_eq_true hc), Text.Utf8.encode, Text.Utf8.encode, List.flatMap_cons]

theorem visibleText_encode (s : String) (tail : Bytes) :
    visibleText (Text.Utf8.encode s.toList ++ 0 :: tail) = untilNul s := by
  have h := Text.Utf8.decode_encode_append (s.toList.takeWhile (· ≠ '\x00')) []
  rw [List.append_nil] at h
  rw [visibleText, visible_encode, h, untilNul]
  exact congrArg String.ofList (List.append_nil _)

/-! ## Blocks -/

theorem block?_allocate (m : Memory) (bytes : Bytes) (a : Address) :
    (m.allocate bytes).2.block? a = if a = m.next then some bytes else m.block? a :=
  lookup_cons_eq_ite

theorem block?_release_self (m : Memory) (a : Address) : (m.release a).block? a = none :=
  lookup_filter_self

theorem block?_release_ne (m : Memory) {a b : Address} (h : b ≠ a) :
    (m.release a).block? b = m.block? b :=
  lookup_filter_ne h

/-! ## Texts -/

theorem textAt_of_block {m : Memory} {a : Address} {bytes : Bytes} (ha : a ≠ 0)
    (h : m.block? a = some bytes) : m.textAt a = visibleText bytes := by
  rw [textAt, if_neg ha, h, Option.getD_some]

/-- A text that is put into memory is seen up to its first NUL. -/
theorem textAt_putText {m : Memory} (h : m.next ≠ 0) (s : String) :
    (m.putText s).2.textAt (m.putText s).1 = untilNul s := by
  have hblock : (m.putText s).2.block? (m.putText s).1 =
      some (Text.Utf8.encode s.toList ++ [0]) :=
    (block?_allocate m _ _).trans (if_pos rfl)
  exact (textAt_of_block h hblock).trans (visibleText_encode s [])

/-- What is seen has no NUL in it. -/
theorem nul_not_mem_visibleText (bytes : Bytes) : '\x00' ∉ (visibleText bytes).toList := by
  rw [visibleText, String.toList_ofList]
  refine Text.Utf8.nul_not_mem_decode fun h => ?_
  have hne := List.mem_takeWhile_imp h
  simp at hne

theorem untilNul_textAt (m : Memory) (a : Address) : untilNul (m.textAt a) = m.textAt a := by
  refine untilNul_of_not_mem ?_
  unfold textAt
  split
  · simp
  · exact nul_not_mem_visibleText _

/-- Bytes that are a text are seen as that text, and what stands behind them as it would be alone.
-/
theorem visibleText_append {s : String} {rest : Bytes} (h : (0 : UInt8) ∉ utf8 s ++ rest)
    (tail tail' : Bytes) :
    visibleText (utf8 s ++ rest ++ 0 :: tail) = s ++ visibleText (rest ++ 0 :: tail') := by
  have hrest : (0 : UInt8) ∉ rest := fun hmem => h (List.mem_append_right _ hmem)
  rw [visibleText, visibleText, visible_of_not_mem h, visible_of_not_mem hrest, utf8,
    Text.Utf8.bytes_eq_encode, Text.Utf8.decode_encode_append, String.ofList_append,
    String.ofList_toList]

/-- What is seen of texts in a memory, and what is asked of its allocator for them. To copy a text
only asks what is there, and so leaves the memory as it is. -/
structure SeesTexts (m : Memory) : Prop where
  /-- A text is put with one request, of its bytes and one more. -/
  put : ∀ s, (m.putText s).1 ≠ 0 ∧ (m.putText s).2.ledger =
    { m.ledger with
      allocations := m.ledger.allocations + 1
      requested := m.ledger.requested + (s.utf8ByteSize + 1) } ∧
    ∀ b, (m.putText s).2.block? b =
      if b = (m.putText s).1 then some (utf8 s ++ [0]) else m.block? b
  cut : ∀ s, (m.putText s).2.textAt (m.putText s).1 = untilNul s
  /-- A text is taken as it is copied, and its block is given back, by one release. -/
  taken : ∀ a, (m.takeText a).1 = m.textAt a ∧
    (m.takeText a).2.ledger = { m.ledger with releases := m.ledger.releases + 1 } ∧
    (m.takeText a).2.block? a = none ∧ ∀ b, b ≠ a → (m.takeText a).2.block? b = m.block? b
  optional : ∀ a, a ≠ 0 → m.textAt? a = some (m.textAt a) ∧
    m.takeText? a = (some (m.takeText a).1, (m.takeText a).2)
  null : m.textAt 0 = "" ∧ (m.takeText 0).1 = "" ∧ m.textAt? 0 = none ∧ m.takeText? 0 = (none, m) ∧
    m.putText? none = (0, m)
  valid : ∀ a s tail, a ≠ 0 → (0 : UInt8) ∉ utf8 s → m.block? a = some (utf8 s ++ 0 :: tail) →
    m.textAt a = s
  /-- Behind a text the rest is seen as it would be anywhere else. -/
  split : ∀ a s rest tail, a ≠ 0 → (0 : UInt8) ∉ utf8 s ++ rest →
    m.block? a = some (utf8 s ++ rest ++ 0 :: tail) →
      ∀ (n : Memory) (b : Address) (tail' : Bytes), b ≠ 0 →
        n.block? b = some (rest ++ 0 :: tail') → m.textAt a = s ++ n.textAt b
  /-- What was seen is seen again where it is put. -/
  again : ∀ (n : Memory) (a : Address),
    (m.putText (n.textAt a)).2.textAt (m.putText (n.textAt a)).1 = n.textAt a

/-- A memory whose allocator does not fail sees texts as it should. -/
theorem seesTexts {m : Memory} (h : m.next ≠ 0) : m.SeesTexts where
  put s := by
    refine ⟨h, ?_, fun b => ?_⟩
    case refine_2 =>
      rw [utf8, Text.Utf8.bytes_eq_encode]
      exact block?_allocate m _ b
    have hlength : (Text.Utf8.encode s.toList ++ [0]).length = s.utf8ByteSize + 1 := by
      rw [List.length_append, ← Text.Utf8.bytes_eq_encode]
      rfl
    rw [← hlength]
    rfl
  cut := textAt_putText h
  taken a := ⟨rfl, rfl, block?_release_self m a, fun b hb => block?_release_ne m hb⟩
  optional a ha := ⟨if_neg ha, if_neg ha⟩
  null := ⟨rfl, rfl, rfl, rfl, rfl⟩
  valid a s tail ha hs hblock := by
    have happend : visibleText (utf8 s ++ [] ++ 0 :: tail) = s ++ visibleText ([] ++ 0 :: []) :=
      visibleText_append (by rwa [List.append_nil]) tail []
    rw [List.append_nil] at happend
    rw [textAt_of_block ha hblock, happend]
    exact String.append_empty
  split a s rest tail ha hs hblock n b tail' hb hblock' := by
    rw [textAt_of_block ha hblock, textAt_of_block hb hblock', visibleText_append hs]
  again n a := by rw [textAt_putText h, untilNul_textAt]

/-! ## A truncated character -/

/-- Two bytes of a character of three, between two letters, and a letter behind a NUL. -/
def truncated : Memory := { blocks := [(64, [0x68, 0xE2, 0x82, 0x65, 0, 0x68])] }

theorem seesTexts_truncated :
    truncated.next ≠ 0 ∧ truncated.textAt 64 = "h\uFFFDe" ∧ truncated.SeesTexts :=
  ⟨by decide, by decide +kernel, seesTexts (by decide)⟩

end Memory

end Introspect
