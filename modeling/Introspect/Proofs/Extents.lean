import Introspect.Native.Array
import Mathlib.Algebra.Group.Nat.Defs

/-!
# Room for arrays

Memory for an array is asked for by its bytes: the size of an element times the number of elements,
taken in words. A number that a caller chose may be too large for that. Where the arithmetic is
checked, the computation then stops. Where it wraps, the product loses what does not fit a word, and
if the little that is left is granted, the array takes elements that its memory does not have.

Values that a host holds side by side already never come to this. Their bytes are fewer than half of
all addresses, and so are those of one more.
-/

namespace Introspect

namespace NativeArray

variable {size count : UInt64}

/-! ## Bytes -/

theorem toNat_pos {x : UInt64} (h : x ≠ 0) : 0 < x.toNat :=
  Nat.pos_of_ne_zero fun hzero => h (UInt64.toNat_inj.mp hzero)

theorem toNat_requestedBytes (size count : UInt64) :
    (requestedBytes size count).toNat = max (size.toNat * count.toNat % 2 ^ 64) 1 := by
  rw [← UInt64.toNat_mul]
  show (if size * count ≤ 1 then (1 : UInt64) else size * count).toNat = _
  split
  · next h => exact (Nat.max_eq_right (UInt64.le_iff_toNat_le.mp h)).symm
  · next h =>
      have hlt : ¬ (size * count).toNat ≤ 1 := fun hle => h (UInt64.le_iff_toNat_le.mpr hle)
      exact (Nat.max_eq_left (Nat.le_of_not_le hlt)).symm

/-- Enough is asked for exactly when the bytes of the elements can be counted in a word. -/
theorem le_requestedBytes_iff :
    size.toNat * count.toNat ≤ (requestedBytes size count).toNat ↔
      size.toNat * count.toNat < 2 ^ 64 := by
  rw [toNat_requestedBytes]
  generalize size.toNat * count.toNat = bytes
  constructor
  · intro h
    have hword := Nat.mod_lt bytes (show 0 < 2 ^ 64 by decide)
    omega
  · intro h
    rw [Nat.mod_eq_of_lt h]
    exact Nat.le_max_left _ _

theorem le_capacity_iff :
    count.toNat ≤ capacity size count (requestedBytes size count) ↔
      size.toNat * count.toNat < 2 ^ 64 := by
  unfold capacity
  split
  · next h => simp [h]
  · next h =>
      rw [UInt64.toNat_div, Nat.le_div_iff_mul_le (toNat_pos h), Nat.mul_comm,
        le_requestedBytes_iff]

/-- Elements that are counted in a word have just the room they need. -/
theorem capacity_eq (hsize : size ≠ 0) (hcount : count ≠ 0)
    (h : size.toNat * count.toNat < 2 ^ 64) :
    capacity size count (requestedBytes size count) = count.toNat := by
  have hbytes : 0 < size.toNat * count.toNat := Nat.mul_pos (toNat_pos hsize) (toNat_pos hcount)
  rw [capacity, if_neg hsize, UInt64.toNat_div, toNat_requestedBytes, Nat.mod_eq_of_lt h,
    Nat.max_eq_left hbytes, Nat.mul_div_cancel_left _ (toNat_pos hsize)]

/-! ## Values of a host -/

/-- So many values of a size can lie side by side in a host: neither one of them nor all together
take half of the addresses. -/
structure Fits (size : UInt64) (n : Nat) : Prop where
  size_lt : size.toNat < 2 ^ 63
  count_lt : n < 2 ^ 64
  bytes_lt : size.toNat * n < 2 ^ 63

namespace Fits

variable {n : Nat}

/-- There is room for one more. -/
theorem room (h : Fits size n) : size.toNat * (n + 1) < 2 ^ 64 := by
  have hsize := h.size_lt
  have hbytes := h.bytes_lt
  rw [Nat.mul_succ]
  omega

theorem toNat_ofNat (h : Fits size n) : (UInt64.ofNat n).toNat = n := Nat.mod_eq_of_lt h.count_lt

/-- Only where elements have no bytes can there be so many that one more is not counted. -/
theorem succ_lt (h : Fits size n) (hsize : size ≠ 0) : n + 1 < 2 ^ 64 :=
  Nat.lt_of_le_of_lt (Nat.le_mul_of_pos_left _ (toNat_pos hsize)) h.room

/-- The bytes of the values are counted in a word. -/
theorem bytes_ofNat_lt (h : Fits size n) : size.toNat * (UInt64.ofNat n).toNat < 2 ^ 64 := by
  have hbytes := h.bytes_lt
  rw [h.toNat_ofNat]
  omega

/-- So are those of one more. -/
theorem bytes_ofNat_succ_lt (h : Fits size n) :
    size.toNat * (UInt64.ofNat (n + 1)).toNat < 2 ^ 64 := by
  by_cases hsize : size = 0
  · rw [hsize]
    simp
  · have hcount : (UInt64.ofNat (n + 1)).toNat = n + 1 := Nat.mod_eq_of_lt (h.succ_lt hsize)
    rw [hcount]
    exact h.room

/-- For the values and a mark behind them enough is asked for. -/
theorem le_requestedBytes_succ (h : Fits size n) :
    size.toNat * (n + 1) ≤ (requestedBytes size (UInt64.ofNat (n + 1))).toNat := by
  by_cases hsize : size = 0
  · rw [hsize]
    simp
  · have hcount : (UInt64.ofNat (n + 1)).toNat = n + 1 := Nat.mod_eq_of_lt (h.succ_lt hsize)
    have hasked := le_requestedBytes_iff.mpr h.bytes_ofNat_succ_lt
    rwa [hcount] at hasked

end Fits

/-! ## Arrays -/

theorem isNull_fill {α : Type} (a : NativeArray α) (values : List α) :
    (a.fill values).isNull = a.isNull :=
  Option.isNone_map

section
variable {α : Type} [ArrayElement α] {grants : Allocator} {arithmetic : Arithmetic}

theorem isNull_zeroed (size count request : UInt64) :
    (zeroed size count request grants : NativeArray α).isNull = !grants request := by
  show (if grants _ then some _ else none).isNone = _
  cases grants request <;> rfl

theorem requestFor_product :
    requestFor (UInt64.ofNat (size.toNat * count.toNat)) = requestedBytes size count :=
  congrArg requestFor (UInt64.toNat_inj.mp (UInt64.toNat_mul size count).symm)

/-- Where the bytes are counted, an array is what the memory asked for gives. -/
theorem make_of_counts (h : arithmetic.Counts (size.toNat * count.toNat)) :
    (make arithmetic size count grants : Option (NativeArray α)) =
      some (zeroed size count (requestedBytes size count) grants) := by
  rw [make, Arithmetic.word?_of_counts h, Option.map_some, requestFor_product]

/-- Checked arithmetic makes the same arrays, but none whose bytes are not counted in a word. -/
theorem make_checked :
    (make .checked size count grants : Option (NativeArray α)) =
      if size.toNat * count.toNat < 2 ^ 64 then make .wrapping size count grants else none := by
  split
  · next h =>
      rw [make_of_counts (Arithmetic.counts_of_lt h), make_of_counts (Arithmetic.counts_of_lt h)]
  · next h => rw [make, Arithmetic.word?_checked_of_le (Nat.le_of_not_lt h), Option.map_none]

/-- An array has its elements exactly when their bytes are counted in a word. -/
theorem isSome_copy?_zeroed
    (h : (zeroed size count (requestedBytes size count) grants : NativeArray α).isNull = false) :
    (zeroed size count (requestedBytes size count) grants : NativeArray α).copy?.isSome ↔
      size.toNat * count.toNat < 2 ^ 64 := by
  rw [isNull_zeroed, Bool.not_eq_false'] at h
  have hmemory : (zeroed size count (requestedBytes size count) grants : NativeArray α).memory =
      some (List.replicate (capacity size count (requestedBytes size count)) ArrayElement.zero) :=
    if_pos h
  rw [copy?, hmemory]
  show (if count.toNat ≤ _ then some _ else none).isSome ↔ _
  rw [List.length_replicate, ← le_capacity_iff]
  split
  · next hle => exact iff_of_true rfl hle
  · next hle => exact iff_of_false (by simp) hle

/-- A copy of a host's values with a mark is made in any arithmetic that counts them. -/
theorem ofListTerminated_of_fits {values : List α} (hfits : Fits size values.length)
    (hcounts : arithmetic.Counts (values.length + 1)) :
    let count := UInt64.ofNat (values.length + 1)
    ofListTerminated arithmetic size values grants =
      some { (zeroed size count (requestedBytes size count) grants).fill values with
        length := UInt64.ofNat values.length } := by
  intro count
  have hbytes : arithmetic.Counts (size.toNat * count.toNat) :=
    Arithmetic.counts_of_lt hfits.bytes_ofNat_succ_lt
  rw [ofListTerminated, Arithmetic.word?_of_counts hcounts]
  show (make arithmetic size count grants).bind _ = _
  rw [make_of_counts hbytes]
  rfl

/-- What is granted for an array is what was asked for it. In wrapping arithmetic that covers an
array of a chosen length exactly when the bytes of the elements are counted in a word, and only then
can they all be read; checked arithmetic makes the array in just these cases. A copy of a host's
values with a mark behind them is always covered. -/
theorem covers_iff (grants : Allocator) (size : UInt64) :
    (∀ count, ∃ a : NativeArray α, make .wrapping size count grants = some a ∧
      a.isNull = !grants (requestedBytes size count) ∧
      (a.isNull = false → a.length = count ∧
        (size.toNat * count.toNat ≤ (requestedBytes size count).toNat ↔
          size.toNat * count.toNat < 2 ^ 64) ∧
        (a.copy?.isSome ↔ size.toNat * count.toNat < 2 ^ 64))) ∧
    (∀ count, (make .checked size count grants : Option (NativeArray α)) =
      if size.toNat * count.toNat < 2 ^ 64 then make .wrapping size count grants else none) ∧
    ∀ arithmetic (values : List α), Fits size values.length →
      Arithmetic.Counts arithmetic (values.length + 1) →
        let request := requestedBytes size (UInt64.ofNat (values.length + 1))
        ∃ a, ofListTerminated arithmetic size values grants = some a ∧
          a.isNull = !grants request ∧ a.length.toNat = values.length ∧
          size.toNat * (values.length + 1) ≤ request.toNat := by
  refine ⟨fun count => ?_, fun _ => make_checked, fun arithmetic values hfits hcounts => ?_⟩
  · have hcounts : Arithmetic.wrapping.Counts (size.toNat * count.toNat) := nofun
    refine ⟨_, make_of_counts hcounts, isNull_zeroed _ _ _, fun h => ⟨rfl, ?_, ?_⟩⟩
    · exact le_requestedBytes_iff
    · exact isSome_copy?_zeroed h
  · refine ⟨_, ofListTerminated_of_fits hfits hcounts, ?_, hfits.toNat_ofNat,
      hfits.le_requestedBytes_succ⟩
    exact (isNull_fill _ _).trans (isNull_zeroed _ _ _)

end

/-- Three words, and two with a mark. -/
theorem covers_words :
    (∃ a : NativeArray UInt64, make .wrapping 8 3 = some a ∧ a.isNull = false ∧
      8 * 3 ≤ (requestedBytes 8 3).toNat) ∧
    Fits 8 [7, 0].length ∧ Arithmetic.Counts .checked ([7, 0].length + 1) ∧
      8 * ([7, 0].length + 1) ≤ (requestedBytes 8 (UInt64.ofNat 3)).toNat := by
  have hfits : Fits 8 [(7 : UInt64), 0].length := ⟨by decide, by decide, by decide⟩
  have hcounts : Arithmetic.Counts .checked ([(7 : UInt64), 0].length + 1) := fun _ => by decide
  obtain ⟨hchosen, -, hvalues⟩ := covers_iff (α := UInt64) (.upTo largestRequest) 8
  obtain ⟨a, hmade, hnull, hcovered⟩ := hchosen 3
  have hgranted : a.isNull = false := hnull.trans (by decide)
  obtain ⟨-, -, -, -, hmark⟩ := hvalues .checked [7, 0] hfits hcounts
  refine ⟨⟨a, hmade, hgranted, ?_⟩, hfits, hcounts, hmark⟩
  exact (hcovered hgranted).2.1.mpr (by decide)

/-- The bytes of so many words come to nothing in wrapping arithmetic, and an array of them is made
all the same. -/
theorem not_covers_overlong :
    ∃ a : NativeArray UInt64, make .wrapping 8 2305843009213693952 = some a ∧
      a.isNull = false ∧ a.length = 2305843009213693952 ∧
      ¬ 8 * 2305843009213693952 ≤ (requestedBytes 8 2305843009213693952).toNat :=
  ⟨_, rfl, by decide, rfl, by decide⟩

end NativeArray

end Introspect
