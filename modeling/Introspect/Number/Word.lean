/-!
# Counting in words

Sizes and handles are counted in machine words. What becomes of a number that no word holds depends
on how the code was built.
-/

namespace Introspect

/-- What becomes of a number that does not fit a word. -/
inductive Arithmetic where
  /-- What does not fit is lost; code that is built for release counts so. -/
  | wrapping
  /-- The computation stops. -/
  | checked
deriving Repr, DecidableEq

namespace Arithmetic

/-- The word for a number, or `none` where the computation stops. -/
def word? : Arithmetic → Nat → Option UInt64
  | .wrapping, n => some (UInt64.ofNat n)
  | .checked, n => if n < UInt64.size then some (UInt64.ofNat n) else none

/-- A computation goes on with this number: it fits a word, or what does not fit is lost. -/
def Counts (arithmetic : Arithmetic) (n : Nat) : Prop := arithmetic = .checked → n < UInt64.size

variable {arithmetic : Arithmetic} {n : Nat}

theorem counts_of_lt (h : n < UInt64.size) : arithmetic.Counts n := fun _ => h

theorem word?_of_counts (h : arithmetic.Counts n) : arithmetic.word? n = some (UInt64.ofNat n) := by
  cases arithmetic with
  | wrapping => rfl
  | checked => exact if_pos (h rfl)

theorem word?_checked_of_le (h : UInt64.size ≤ n) : Arithmetic.checked.word? n = none :=
  if_neg (Nat.not_lt_of_le h)

/-- What does not go on is checked, and no word holds its number. -/
theorem not_counts (h : ¬ arithmetic.Counts n) : arithmetic = .checked ∧ UInt64.size ≤ n := by
  obtain ⟨hchecked, hn⟩ := Classical.not_imp.mp h
  exact ⟨hchecked, Nat.le_of_not_lt hn⟩

end Arithmetic

end Introspect
