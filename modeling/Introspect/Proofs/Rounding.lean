import Introspect.Number.Binary64
import Mathlib.Algebra.Order.Field.Power
import Mathlib.Data.Rat.Cast.Order
import Mathlib.Tactic.Linarith
import Mathlib.Tactic.Positivity
import Mathlib.Tactic.Ring

/-!
# Rounding to the nearest number

A ratio of natural numbers is rounded on the grid of a power of two, which is found from the
greatest power of two that is at most the ratio. Everything depends on the ratio alone and not on
the two numbers it is given by. And every finite number has a neighbourhood that is rounded to it:
half a step of its grid to either side, or a quarter below a power of two, where the grid gets
finer.
-/

namespace Introspect

/-! ## Quotients -/

section
variable {tie : Tie} {num den : Nat}

/-- A whole number that is less than a half away from a quotient is the nearest one. -/
theorem roundDiv_eq_of_near {m : Nat} (hden : 0 < den) (hlow : 2 * (m * den) < 2 * num + den)
    (hhigh : 2 * num < 2 * (m * den) + den) : roundDiv tie num den = m := by
  have hsplit : den * (num / den) + num % den = num := Nat.div_add_mod num den
  have hrest : num % den < den := Nat.mod_lt _ hden
  have hupper : num / den ≤ m := by
    by_contra hlt
    have hmul : den * (m + 1) ≤ den * (num / den) := Nat.mul_le_mul_left _ (by omega)
    rw [Nat.mul_add, Nat.mul_comm den m] at hmul
    omega
  have hlower : m ≤ num / den + 1 := by
    by_contra hlt
    have hmul : den * (num / den + 2) ≤ den * m := Nat.mul_le_mul_left _ (by omega)
    rw [Nat.mul_add, Nat.mul_comm den m] at hmul
    omega
  unfold roundDiv
  dsimp only
  rcases Nat.lt_or_eq_of_le hupper with hlt | heq
  · -- The quotient lies in the upper half before `m`.
    obtain rfl : m = num / den + 1 := by omega
    rw [Nat.add_mul, Nat.mul_comm _ den] at hlow
    rw [if_neg (by omega), if_pos (by omega)]
  · rw [← heq, Nat.mul_comm _ den] at hhigh
    rw [if_pos (by omega), heq]

/-- No quotient is more than a half away from what it is rounded to. -/
theorem near_roundDiv (hden : 0 < den) :
    2 * (roundDiv tie num den * den) ≤ 2 * num + den ∧
      2 * num ≤ 2 * (roundDiv tie num den * den) + den := by
  have hsplit : den * (num / den) + num % den = num := Nat.div_add_mod num den
  have hrest : num % den < den := Nat.mod_lt _ hden
  have hup : (num / den + 1) * den = den * (num / den) + den := by
    rw [Nat.add_mul, Nat.mul_comm, Nat.one_mul]
  have hdown : num / den * den = den * (num / den) := Nat.mul_comm _ _
  unfold roundDiv
  dsimp only
  split
  · rw [hdown]; omega
  split
  · rw [hup]; omega
  have hhalf : 2 * (num % den) = den := by omega
  cases tie with
  | up => dsimp only; rw [hup]; omega
  | even =>
      dsimp only
      rcases Nat.mod_two_eq_zero_or_one (num / den) with h | h
      · rw [h, Nat.add_zero, hdown]; omega
      · rw [h, hup]; omega

theorem roundDiv_mul_right {k : Nat} (hk : 0 < k) :
    roundDiv tie (num * k) (den * k) = roundDiv tie num den := by
  unfold roundDiv
  rw [Nat.mul_div_mul_right _ _ hk, Nat.mul_mod_mul_right]
  have hleft : 2 * (num % den * k) < den * k ↔ 2 * (num % den) < den := by
    rw [← Nat.mul_assoc, Nat.mul_lt_mul_right hk]
  have hright : den * k < 2 * (num % den * k) ↔ den < 2 * (num % den) := by
    rw [← Nat.mul_assoc, Nat.mul_lt_mul_right hk]
  simp only [hleft, hright]

end

/-! ## Powers -/

/-- A power with any exponent is a ratio of natural numbers. -/
theorem zpow_eq_div (b : Nat) (e : Int) :
    (b : ℚ) ^ e = ((b ^ e.toNat : Nat) : ℚ) / ((b ^ (-e).toNat : Nat) : ℚ) := by
  cases e with
  | ofNat n =>
      rw [Int.ofNat_eq_natCast, Int.toNat_natCast, Int.toNat_of_nonpos (by omega)]
      simp
  | negSucc n =>
      rw [Int.toNat_of_nonpos (Int.negSucc_lt_zero n).le, zpow_negSucc, Int.neg_negSucc]
      simp

namespace Binary64

/-! ## Powers of two -/

section
variable {num den : Nat}

theorem shift_lt_iff (hden : 0 < den) (e : Int) :
    num <<< (-e).toNat < den <<< e.toNat ↔ (num : ℚ) / den < 2 ^ e := by
  have hpos : (0 : ℚ) < den := by exact_mod_cast hden
  have hbelow : (0 : ℚ) < ((2 ^ (-e).toNat : Nat) : ℚ) := by positivity
  rw [show (2 : ℚ) = ((2 : Nat) : ℚ) from rfl, zpow_eq_div 2, div_lt_div_iff₀ hpos hbelow,
    Nat.shiftLeft_eq, Nat.shiftLeft_eq, Nat.mul_comm den]
  exact_mod_cast Iff.rfl

/-- The greatest power of two that is at most a ratio. -/
theorem floorLog2_spec (hnum : 0 < num) (hden : 0 < den) :
    (2 : ℚ) ^ floorLog2 num den ≤ num / den ∧ (num : ℚ) / den < 2 ^ (floorLog2 num den + 1) := by
  have hpos : (0 : ℚ) < den := by exact_mod_cast hden
  have hnumLow : (2 : ℚ) ^ (num.log2 : Int) ≤ num := by
    rw [zpow_natCast]
    exact_mod_cast Nat.log2_self_le hnum.ne'
  have hnumHigh : (num : ℚ) < 2 ^ ((num.log2 : Int) + 1) := by
    rw [← Int.natCast_succ, zpow_natCast]
    exact_mod_cast Nat.lt_log2_self
  have hdenLow : (2 : ℚ) ^ (den.log2 : Int) ≤ den := by
    rw [zpow_natCast]
    exact_mod_cast Nat.log2_self_le hden.ne'
  have hdenHigh : (den : ℚ) < 2 ^ ((den.log2 : Int) + 1) := by
    rw [← Int.natCast_succ, zpow_natCast]
    exact_mod_cast Nat.lt_log2_self
  have htwo : (2 : ℚ) ≠ 0 := by norm_num
  have hlow : (2 : ℚ) ^ ((num.log2 : Int) - den.log2 - 1) ≤ num / den := by
    rw [le_div_iff₀ hpos]
    calc (2 : ℚ) ^ ((num.log2 : Int) - den.log2 - 1) * den
        ≤ 2 ^ ((num.log2 : Int) - den.log2 - 1) * 2 ^ ((den.log2 : Int) + 1) := by gcongr
      _ = 2 ^ (num.log2 : Int) := by rw [← zpow_add₀ htwo]; congr 1; ring
      _ ≤ num := hnumLow
  have hhigh : (num : ℚ) / den < 2 ^ ((num.log2 : Int) - den.log2 + 1) := by
    rw [div_lt_iff₀ hpos]
    calc (num : ℚ) < 2 ^ ((num.log2 : Int) + 1) := hnumHigh
      _ = 2 ^ ((num.log2 : Int) - den.log2 + 1) * 2 ^ (den.log2 : Int) := by
          rw [← zpow_add₀ htwo]; congr 1; ring
      _ ≤ 2 ^ ((num.log2 : Int) - den.log2 + 1) * den := by gcongr
  unfold floorLog2
  dsimp only
  split
  · next h =>
      rw [Int.sub_add_cancel]
      exact ⟨hlow, (shift_lt_iff hden _).mp h⟩
  · next h => exact ⟨not_lt.mp (mt (shift_lt_iff hden _).mpr h), hhigh⟩

theorem floorLog2_lt {e : Int} (hnum : 0 < num) (hden : 0 < den) (h : (num : ℚ) / den < 2 ^ e) :
    floorLog2 num den < e :=
  (zpow_lt_zpow_iff_right₀ (by norm_num)).mp ((floorLog2_spec hnum hden).1.trans_lt h)

theorem le_floorLog2 {e : Int} (hnum : 0 < num) (hden : 0 < den) (h : (2 : ℚ) ^ e ≤ num / den) :
    e ≤ floorLog2 num den := by
  have hlt : e < floorLog2 num den + 1 :=
    (zpow_lt_zpow_iff_right₀ (by norm_num)).mp (h.trans_lt (floorLog2_spec hnum hden).2)
  omega

theorem floorLog2_eq_of_bounds {e : Int} (hnum : 0 < num) (hden : 0 < den)
    (hlow : (2 : ℚ) ^ e ≤ num / den) (hhigh : (num : ℚ) / den < 2 ^ (e + 1)) :
    floorLog2 num den = e := by
  have hle : e ≤ floorLog2 num den := le_floorLog2 hnum hden hlow
  have hlt : floorLog2 num den < e + 1 := floorLog2_lt hnum hden hhigh
  omega

theorem floorLog2_congr {num' den' : Nat} (hnum : 0 < num) (hden : 0 < den) (hnum' : 0 < num')
    (hden' : 0 < den') (h : (num : ℚ) / den = num' / den') :
    floorLog2 num den = floorLog2 num' den' := by
  obtain ⟨hlow, hhigh⟩ := floorLog2_spec hnum' hden'
  rw [← h] at hlow hhigh
  exact floorLog2_eq_of_bounds hnum hden hlow hhigh

/-! ## What a ratio is rounded to -/

/-- Only the ratio counts, however it is given. -/
theorem ofRatio_congr {num' den' : Nat} (negative : Bool) (hden : 0 < den) (hden' : 0 < den')
    (h : num * den' = num' * den) : ofRatio negative num den = ofRatio negative num' den' := by
  rcases Nat.eq_zero_or_pos num with rfl | hnum
  · have hnum' : num' = 0 := by
      rw [Nat.zero_mul] at h
      exact (Nat.mul_eq_zero.mp h.symm).resolve_right hden.ne'
    rw [hnum', ofRatio, ofRatio, if_pos rfl, if_pos rfl]
  have hnum' : 0 < num' := by
    rcases Nat.eq_zero_or_pos num' with rfl | hpos
    · rw [Nat.zero_mul] at h
      exact absurd h (Nat.mul_pos hnum hden').ne'
    · exact hpos
  have hratio : (num : ℚ) / den = num' / den' := by
    rw [div_eq_div_iff (by exact_mod_cast hden.ne') (by exact_mod_cast hden'.ne')]
    exact_mod_cast h
  have hround : ∀ a b : Nat, roundDiv .even (num * 2 ^ a) (den * 2 ^ b) =
      roundDiv .even (num' * 2 ^ a) (den' * 2 ^ b) := by
    intro a b
    have hscale : roundDiv .even (num' * 2 ^ a * den) (den' * 2 ^ b * den) =
        roundDiv .even (num' * 2 ^ a) (den' * 2 ^ b) := roundDiv_mul_right hden
    rw [← roundDiv_mul_right hden', ← hscale,
      Nat.mul_right_comm num, h, Nat.mul_right_comm num', Nat.mul_right_comm den,
      Nat.mul_right_comm den', Nat.mul_comm den]
  unfold ofRatio
  rw [if_neg hnum.ne', if_neg hnum'.ne']
  dsimp only
  rw [floorLog2_congr hnum hden hnum' hden' hratio]
  simp only [Nat.shiftLeft_eq, hround]

end

/-! ## Finite numbers -/

/-- Neither an infinity nor a NaN. -/
def Finite (x : Binary64) : Prop := x.magnitude < 0x7FF <<< 52

theorem finite_iff {x : Binary64} : x.Finite ↔ x.isNaN = false ∧ x.isInfinite = false := by
  rw [Finite, isNaN, isInfinite, decide_eq_false_iff_not, decide_eq_false_iff_not]
  omega

/-- A finite number without its sign. -/
def value (x : Binary64) : ℚ := x.toDyadic.mantissa * 2 ^ x.toDyadic.exponent

/-- The mantissa has a leading bit of its own, but on the finest grid. -/
structure Canonical (d : Dyadic) : Prop where
  least : -1074 ≤ d.exponent
  lt : d.mantissa < 2 ^ 53
  le : -1074 < d.exponent → 2 ^ 52 ≤ d.mantissa

theorem canonical_toDyadic (x : Binary64) : Canonical x.toDyadic := by
  have hfraction : x.magnitude % 1 <<< 52 < 1 <<< 52 := Nat.mod_lt _ (by decide)
  unfold toDyadic
  dsimp only
  split
  · refine ⟨Int.le_refl _, ?_, fun h => absurd h (Int.lt_irrefl _)⟩
    exact Nat.lt_trans hfraction (by decide)
  · refine ⟨?_, ?_, fun _ => ?_⟩
    · dsimp only; omega
    · have htwo : 1 <<< 52 + 1 <<< 52 = 2 ^ 53 := by decide
      dsimp only; omega
    · exact Nat.le_add_right _ _

theorem magnitude_eq (x : Binary64) :
    x.magnitude = (x.toDyadic.exponent + 1074).toNat <<< 52 + x.toDyadic.mantissa := by
  have hsplit : x.magnitude = 2 ^ 52 * (x.magnitude / 2 ^ 52) + x.magnitude % 2 ^ 52 :=
    (Nat.div_add_mod _ _).symm
  have hone : 1 <<< 52 = 2 ^ 52 := rfl
  unfold toDyadic
  dsimp only
  rw [Nat.shiftRight_eq_div_pow, hone]
  split
  · next h =>
      dsimp only
      rw [h] at hsplit
      rw [hsplit]
      simp
  · next h =>
      have hfield : ((x.magnitude / 2 ^ 52 : Nat) - 1075 + 1074 : Int).toNat =
          x.magnitude / 2 ^ 52 - 1 := by omega
      dsimp only
      rw [hfield, Nat.shiftLeft_eq]
      omega

theorem toNat_bits_ofMagnitude {negative : Bool} {m : Nat} (h : m < 1 <<< 63) :
    (ofMagnitude negative m).bits.toNat = if negative then 1 <<< 63 + m else m := by
  have hone : (1 <<< 63 : Nat) + 1 <<< 63 = 2 ^ 64 := by decide
  have hbound : (if negative then 1 <<< 63 + m else m) < 2 ^ 64 := by
    split <;> omega
  exact (UInt64.toNat_ofNat').trans (Nat.mod_eq_of_lt hbound)

theorem magnitude_ofMagnitude {negative : Bool} {m : Nat} (h : m < 1 <<< 63) :
    (ofMagnitude negative m).magnitude = m := by
  rw [magnitude, toNat_bits_ofMagnitude h]
  cases negative with
  | true => rw [if_pos rfl, Nat.add_mod_left, Nat.mod_eq_of_lt h]
  | false => rw [if_neg (by decide), Nat.mod_eq_of_lt h]

theorem negative_ofMagnitude {negative : Bool} {m : Nat} (h : m < 1 <<< 63) :
    (ofMagnitude negative m).negative = negative := by
  rw [Binary64.negative, toNat_bits_ofMagnitude h]
  cases negative with
  | true => simp
  | false => simpa using h

/-- A number is its sign and its magnitude. -/
theorem ofMagnitude_magnitude (x : Binary64) : ofMagnitude x.negative x.magnitude = x := by
  have hone : (1 <<< 63 : Nat) + 1 <<< 63 = 2 ^ 64 := by decide
  have hbits : x.bits.toNat < 2 ^ 64 := x.bits.toNat_lt
  have hmagnitude : x.magnitude < 1 <<< 63 := Nat.mod_lt _ (by decide)
  have hnat : (ofMagnitude x.negative x.magnitude).bits.toNat = x.bits.toNat := by
    rw [toNat_bits_ofMagnitude hmagnitude, magnitude, Binary64.negative]
    by_cases h : x.bits.toNat ≥ 1 <<< 63
    · rw [if_pos (decide_eq_true h), Nat.mod_eq_sub_mod h, Nat.mod_eq_of_lt (by omega)]
      omega
    · rw [if_neg (by simpa using h)]
      exact Nat.mod_eq_of_lt (Nat.lt_of_not_le h)
  obtain ⟨bits⟩ := x
  exact congrArg Binary64.mk (UInt64.toNat_inj.mp hnat)

theorem negative_ofRatio (negative : Bool) (num den : Nat) :
    (ofRatio negative num den).negative = negative := by
  unfold ofRatio
  dsimp only
  split
  · exact negative_ofMagnitude (by decide)
  split
  · exact negative_ofMagnitude (by decide)
  · next h => exact negative_ofMagnitude (Nat.lt_trans (Nat.lt_of_not_le h) (by decide))

/-! ## Neighbourhoods -/

/-- How far below a finite number the ratios go that are rounded to it, as a part of its step. -/
def lowerPart (d : Dyadic) : ℚ :=
  if d.mantissa = 2 ^ 52 ∧ -1074 < d.exponent then 1 / 4 else 1 / 2

theorem lowerPart_le (d : Dyadic) : lowerPart d ≤ 1 / 2 := by
  unfold lowerPart
  split <;> norm_num

/-- The ratios around a finite number that are rounded to it. -/
def Near (d : Dyadic) (r : ℚ) : Prop :=
  (d.mantissa - lowerPart d) * 2 ^ d.exponent < r ∧ r < (d.mantissa + 1 / 2) * 2 ^ d.exponent

/-- On a grid the nearest step is that of a ratio which is less than half a step away. -/
theorem roundDiv_shift_eq {num den m : Nat} {q : Int} (hden : 0 < den)
    (hlow : ((m : ℚ) - 1 / 2) * 2 ^ q < num / den) (hhigh : (num : ℚ) / den < (m + 1 / 2) * 2 ^ q) :
    roundDiv .even (num <<< (-q).toNat) (den <<< q.toNat) = m := by
  have hpos : (0 : ℚ) < den := by exact_mod_cast hden
  have hup : (0 : ℚ) < ((2 ^ q.toNat : Nat) : ℚ) := by positivity
  have hdown : (0 : ℚ) < ((2 ^ (-q).toNat : Nat) : ℚ) := by positivity
  rw [show (2 : ℚ) = ((2 : Nat) : ℚ) from rfl, zpow_eq_div 2] at hlow hhigh
  rw [← mul_div_assoc, div_lt_div_iff₀ hdown hpos] at hlow
  rw [← mul_div_assoc, div_lt_div_iff₀ hpos hdown] at hhigh
  rw [Nat.shiftLeft_eq, Nat.shiftLeft_eq]
  refine roundDiv_eq_of_near (by positivity) ?_ ?_
  · have hcast : (2 : ℚ) * (m * (den * (2 ^ q.toNat : Nat))) <
        2 * (num * (2 ^ (-q).toNat : Nat)) + den * (2 ^ q.toNat : Nat) := by
      push_cast at hlow ⊢
      linarith
    exact_mod_cast hcast
  · have hcast : (2 : ℚ) * (num * (2 ^ (-q).toNat : Nat)) <
        2 * (m * (den * (2 ^ q.toNat : Nat))) + den * (2 ^ q.toNat : Nat) := by
      push_cast at hhigh ⊢
      linarith
    exact_mod_cast hcast

/-- The magnitude of what a ratio is rounded to, from the grid and the step on it. -/
theorem magnitude_ofRatio {num den m n : Nat} {q : Int} (negative : Bool) (hnum : 0 < num)
    (hgrid : max (floorLog2 num den - 52) (-1074) = q)
    (hround : roundDiv .even (num <<< (-q).toNat) (den <<< q.toNat) = m)
    (hsum : (q + 1074).toNat <<< 52 + m = n) (hfinite : n < 0x7FF <<< 52) :
    (ofRatio negative num den).magnitude = n := by
  unfold ofRatio
  rw [if_neg hnum.ne']
  dsimp only
  rw [hgrid, hround, hsum, if_neg (by omega)]
  exact magnitude_ofMagnitude (Nat.lt_trans hfinite (by decide))

namespace Near

variable {d : Dyadic} {r : ℚ}

theorem lt_next (h : Near d r) (hd : Canonical d) : r < 2 ^ (d.exponent + 53) := by
  have hcast : (d.mantissa : ℚ) + 1 ≤ 2 ^ 53 := by exact_mod_cast hd.lt
  calc r < (d.mantissa + 1 / 2) * 2 ^ d.exponent := h.2
    _ < 2 ^ 53 * 2 ^ d.exponent := by gcongr; linarith
    _ = 2 ^ (d.exponent + 53) := by rw [add_comm, zpow_add₀ two_ne_zero]; rfl

theorem half_lt (h : Near d r) : ((d.mantissa : ℚ) - 1 / 2) * 2 ^ d.exponent < r := by
  have hpart : lowerPart d ≤ 1 / 2 := lowerPart_le d
  refine lt_of_le_of_lt ?_ h.1
  gcongr

theorem pos (h : Near d r) (hm : 0 < d.mantissa) : 0 < r := by
  have hone : (1 : ℚ) ≤ d.mantissa := by exact_mod_cast hm
  exact lt_trans (mul_pos (by linarith) (by positivity)) h.half_lt

/-- Only a power of two is near a ratio that belongs to the grid below its own. -/
theorem mantissa_eq (h : Near d r) (hd : Canonical d) (hleast : -1074 < d.exponent)
    (hr : r < 2 ^ 52 * 2 ^ d.exponent) : d.mantissa = 2 ^ 52 := by
  have hge : 2 ^ 52 ≤ d.mantissa := hd.le hleast
  by_contra hne
  have hcast : (2 ^ 52 : ℚ) + 1 ≤ d.mantissa := by
    exact_mod_cast Nat.lt_of_le_of_ne hge (Ne.symm hne)
  have hbelow : (2 ^ 52 : ℚ) * 2 ^ d.exponent ≤ (d.mantissa - 1 / 2) * 2 ^ d.exponent := by
    gcongr
    linarith
  have hhalf : ((d.mantissa : ℚ) - 1 / 2) * 2 ^ d.exponent < r := h.half_lt
  linarith

/-- Below a power of two, on the grid that is twice as fine, half a step is a quarter. -/
theorem lt_finer (h : Near d r) (hleast : -1074 < d.exponent) (hm : d.mantissa = 2 ^ 52) :
    ((2 : ℚ) ^ 53 - 1 / 2) * 2 ^ (d.exponent - 1) < r := by
  have hpart : lowerPart d = 1 / 4 := if_pos ⟨hm, hleast⟩
  have hlow : ((d.mantissa : ℚ) - lowerPart d) * 2 ^ d.exponent < r := h.1
  have hhalf : (2 : ℚ) ^ d.exponent = 2 * 2 ^ (d.exponent - 1) := by
    rw [← zpow_one_add₀ two_ne_zero, add_sub_cancel]
  rw [hpart, hm, hhalf] at hlow
  push_cast at hlow
  linarith

end Near

/-- A ratio near a finite number is rounded to it. -/
theorem ofRatio_of_near {x : Binary64} {num den : Nat} (hx : x.Finite) (hnum : 0 < num)
    (hden : 0 < den) (h : Near x.toDyadic (num / den)) :
    (ofRatio false num den).magnitude = x.magnitude := by
  have hd : Canonical x.toDyadic := canonical_toDyadic x
  have hmagnitude := magnitude_eq x
  generalize x.toDyadic = d at *
  have hleast : -1074 ≤ d.exponent := hd.least
  -- The ratio is below the next power of two, so its grid is no coarser.
  have hfloor : floorLog2 num den < d.exponent + 53 := floorLog2_lt hnum hden (h.lt_next hd)
  by_cases hgrid : max (floorLog2 num den - 52) (-1074) = d.exponent
  · exact magnitude_ofRatio false hnum hgrid (roundDiv_shift_eq hden h.half_lt h.2)
      hmagnitude.symm hx
  · -- The ratio is below the power of two that the number is, on a grid twice as fine.
    have hfine : -1074 < d.exponent := by omega
    have habove : (num : ℚ) / den < 2 ^ 52 * 2 ^ d.exponent := by
      calc (num : ℚ) / den < 2 ^ (floorLog2 num den + 1) := (floorLog2_spec hnum hden).2
        _ ≤ 2 ^ (d.exponent + 52) := zpow_le_zpow_right₀ one_le_two (by omega)
        _ = 2 ^ 52 * 2 ^ d.exponent := by rw [add_comm, zpow_add₀ two_ne_zero]; rfl
    have hpower : d.mantissa = 2 ^ 52 := h.mantissa_eq hd hfine habove
    have hlow : ((2 : ℚ) ^ 53 - 1 / 2) * 2 ^ (d.exponent - 1) < num / den := h.lt_finer hfine hpower
    have hhalf : (2 : ℚ) ^ d.exponent = 2 * 2 ^ (d.exponent - 1) := by
      rw [← zpow_one_add₀ two_ne_zero, add_sub_cancel]
    have hstep : (0 : ℚ) < 2 ^ (d.exponent - 1) := by positivity
    have hfloorGe : d.exponent + 51 ≤ floorLog2 num den := by
      refine le_floorLog2 hnum hden (le_trans ?_ hlow.le)
      have hsplit : (2 : ℚ) ^ (d.exponent + 51) = 2 ^ 52 * 2 ^ (d.exponent - 1) := by
        rw [← zpow_natCast, ← zpow_add₀ two_ne_zero]
        congr 1
        push_cast
        ring
      rw [hsplit]
      gcongr
      norm_num
    refine magnitude_ofRatio false hnum (q := d.exponent - 1) (m := 2 ^ 53) (by omega)
      (roundDiv_shift_eq hden ?_ ?_) ?_ hx
    · exact_mod_cast hlow
    · rw [hhalf] at habove
      push_cast
      linarith
    · rw [hmagnitude, hpower]
      have hnat : (d.exponent + 1074).toNat = (d.exponent - 1 + 1074).toNat + 1 := by omega
      rw [hnat, Nat.shiftLeft_eq, Nat.shiftLeft_eq]
      omega

end Binary64

end Introspect
