import Introspect.Number.Decimal
import Introspect.Proofs.Rounding

/-!
# The shortest decimal reads back

Seventeen digits always tell a finite number from its neighbours: half a step of their grid is less
than the distance at which another number is nearer, even below a power of two. So the search for
the shortest decimal ends with one that is rounded to the number.
-/

namespace Introspect

namespace Decimal

/-! ## Values -/

/-- The number that a decimal stands for. -/
def value (d : Decimal) : ℚ := d.digits * 10 ^ d.exponent

theorem ratio_pos (d : Decimal) : 0 < d.ratio.2 := Nat.pow_pos (by decide)

theorem ratio_div (d : Decimal) : (d.ratio.1 : ℚ) / d.ratio.2 = d.value := by
  rw [value, show (10 : ℚ) = ((10 : Nat) : ℚ) from rfl, zpow_eq_div 10, ratio]
  dsimp only [Nat.pow_eq]
  push_cast
  ring

theorem toBinary_congr {d d' : Decimal} (h : d.value = d'.value) : d.toBinary = d'.toBinary := by
  have hpos := d.ratio_pos
  have hpos' := d'.ratio_pos
  refine Binary64.ofRatio_congr false hpos hpos' ?_
  rw [← ratio_div, ← ratio_div, div_eq_div_iff (by exact_mod_cast hpos.ne')
    (by exact_mod_cast hpos'.ne')] at h
  exact_mod_cast h

theorem value_strip (fuel : Nat) : ∀ d : Decimal, (d.strip fuel).value = d.value := by
  induction fuel with
  | zero => intro d; rfl
  | succ fuel ih =>
      intro d
      rw [strip]
      split
      · next h =>
          have hdigits : d.digits = d.digits / 10 * 10 := by omega
          have hcast : (d.digits : ℚ) = (d.digits / 10 : Nat) * 10 := by exact_mod_cast hdigits
          rw [ih, value, value, hcast, add_comm, zpow_one_add₀ (by norm_num)]
          dsimp only
          ring
      · rfl

/-! ## Powers of ten -/

theorem lt_pow_length_toDigits (n : Nat) : n < 10 ^ (Nat.toDigits 10 n).length :=
  (Nat.length_toDigits_le_iff (by decide) Nat.length_toDigits_pos).mp (Nat.le_refl _)

theorem pow_length_toDigits_le {n : Nat} (h : 0 < n) :
    10 ^ ((Nat.toDigits 10 n).length - 1) ≤ n := by
  rcases Nat.eq_zero_or_pos ((Nat.toDigits 10 n).length - 1) with hone | hmore
  · rw [hone]
    exact h
  · have hlength := (Nat.length_toDigits_le_iff (b := 10) (n := n) (by decide) hmore).not
    rw [Nat.not_le, Nat.not_lt] at hlength
    exact hlength.mp (Nat.sub_lt Nat.length_toDigits_pos Nat.one_pos)

/-- A ratio is at least the power of ten of its first digit. -/
theorem pow_floorLog10_le {num den : Nat} (hnum : 0 < num) (hden : 0 < den) :
    (10 : ℚ) ^ floorLog10 num den ≤ num / den := by
  have hpos : (0 : ℚ) < den := by exact_mod_cast hden
  unfold floorLog10
  split
  · next hle =>
      have hquot : 0 < num / den := Nat.div_pos hle hden
      have hpow : 10 ^ ((Nat.toDigits 10 (num / den)).length - 1) * den ≤ num :=
        (Nat.mul_le_mul_right _ (pow_length_toDigits_le hquot)).trans (Nat.div_mul_le_self _ _)
      rw [le_div_iff₀ hpos, ← Nat.cast_pred Nat.length_toDigits_pos, zpow_natCast]
      exact_mod_cast hpow
  · next hlt =>
      have hdigits := lt_pow_length_toDigits ((den - 1) / num)
      rw [Nat.div_lt_iff_lt_mul hnum] at hdigits
      have hpow : den ≤ num * 10 ^ (Nat.toDigits 10 ((den - 1) / num)).length := by
        rw [Nat.mul_comm]
        omega
      rw [zpow_neg, zpow_natCast, ← one_div, div_le_div_iff₀ (by positivity) hpos, one_mul]
      exact_mod_cast hpow

end Decimal

namespace Binary64

theorem ratio_pos (x : Binary64) : 0 < x.ratio.2 := by
  show 0 < 1 <<< (-x.toDyadic.exponent).toNat
  rw [Nat.shiftLeft_eq, Nat.one_mul]
  exact Nat.pow_pos (by decide)

theorem ratio_div (x : Binary64) : (x.ratio.1 : ℚ) / x.ratio.2 = x.value := by
  rw [value, show (2 : ℚ) = ((2 : Nat) : ℚ) from rfl, zpow_eq_div 2, ratio]
  dsimp only
  rw [Nat.shiftLeft_eq, Nat.shiftLeft_eq, Nat.one_mul]
  push_cast
  ring

theorem mantissa_pos {x : Binary64} (h : 0 < x.ratio.1) : 0 < x.toDyadic.mantissa := by
  rw [ratio, Nat.shiftLeft_eq] at h
  exact Nat.pos_of_mul_pos_right h

/-- A number whose ratio is zero is a zero. -/
theorem magnitude_of_ratio {x : Binary64} (h : x.ratio.1 = 0) : x.magnitude = 0 := by
  have hmantissa : x.toDyadic.mantissa = 0 := by
    rw [ratio, Nat.shiftLeft_eq] at h
    exact (Nat.mul_eq_zero.mp h).resolve_right (Nat.pow_pos (by decide)).ne'
  obtain ⟨hleast, -, hle⟩ := canonical_toDyadic x
  have hexponent : x.toDyadic.exponent = -1074 := by
    by_contra hne
    have := hle (by omega)
    omega
  rw [magnitude_eq, hmantissa, hexponent]
  rfl

/-! ## The search -/

/-- A decimal that lies within half a step of a grid of seventeen digits lies near the number. -/
theorem near_of_seventeen {x : Binary64} {w step : ℚ}
    (hstep : step * 10 ^ 16 ≤ x.value) (hlow : x.value ≤ w + step / 2)
    (hhigh : w ≤ x.value + step / 2) : Near x.toDyadic w := by
  obtain ⟨-, hlt, -⟩ := canonical_toDyadic x
  rw [value] at hstep hlow hhigh
  have hcast : (x.toDyadic.mantissa : ℚ) + 1 ≤ 2 ^ 53 := by exact_mod_cast hlt
  have hgrid : (0 : ℚ) < 2 ^ x.toDyadic.exponent := by positivity
  have hless : step < 2 ^ x.toDyadic.exponent := by
    have : (x.toDyadic.mantissa : ℚ) * 2 ^ x.toDyadic.exponent <
        10 ^ 16 * 2 ^ x.toDyadic.exponent := by
      gcongr
      linarith
    linarith
  constructor
  · unfold lowerPart
    split
    · next h =>
        -- A power of two: the step is less than half of that of its grid.
        rw [h.1] at hstep hlow ⊢
        push_cast at hstep hlow ⊢
        linarith
    · linarith
  · linarith

end Binary64

namespace Decimal

variable {tie : Tie} {x : Binary64} {num den : Nat} {k : Int}

theorem hit_of_onGrid {d : Decimal} (h : onGrid tie x num den k = some d) :
    d.toBinary.magnitude = x.magnitude := by
  have hhit : ∀ n m : Nat, (if decide ((toBinary ⟨n, k⟩).magnitude = x.magnitude) then some ⟨n, k⟩
      else if decide ((toBinary ⟨m, k⟩).magnitude = x.magnitude) then some ⟨m, k⟩
      else none) = some d → d.toBinary.magnitude = x.magnitude := by
    intro n m h
    split at h
    · next hit =>
        cases h
        exact of_decide_eq_true hit
    · split at h
      · next hit =>
          cases h
          exact of_decide_eq_true hit
      · cases h
  exact hhit _ _ h

/-- The nearest decimal on a grid is at most half a step away. -/
theorem near_grid (tie : Tie) (num : Nat) (k : Int) (hden : 0 < den) :
    (num : ℚ) / den ≤
        value ⟨roundDiv tie (num * 10 ^ (-k).toNat) (den * 10 ^ k.toNat), k⟩ + 10 ^ k / 2 ∧
      value ⟨roundDiv tie (num * 10 ^ (-k).toNat) (den * 10 ^ k.toNat), k⟩ ≤
        num / den + 10 ^ k / 2 := by
  have hpos : (0 : ℚ) < den := by exact_mod_cast hden
  have hbelow : (0 : ℚ) < ((10 ^ (-k).toNat : Nat) : ℚ) := by positivity
  have hgrid : (10 : ℚ) ^ k = ((10 ^ k.toNat : Nat) : ℚ) / ((10 ^ (-k).toNat : Nat) : ℚ) :=
    zpow_eq_div 10 k
  have hscaled : 0 < den * 10 ^ k.toNat := Nat.mul_pos hden (Nat.pow_pos (by decide))
  obtain ⟨hlow, hhigh⟩ := @near_roundDiv tie (num * 10 ^ (-k).toNat) _ hscaled
  generalize roundDiv tie (num * 10 ^ (-k).toNat) (den * 10 ^ k.toNat) = n at *
  have hlow' : ((2 * (n * (den * 10 ^ k.toNat)) : Nat) : ℚ) ≤
      ((2 * (num * 10 ^ (-k).toNat) + den * 10 ^ k.toNat : Nat) : ℚ) := by exact_mod_cast hlow
  have hhigh' : ((2 * (num * 10 ^ (-k).toNat) : Nat) : ℚ) ≤
      ((2 * (n * (den * 10 ^ k.toNat)) + den * 10 ^ k.toNat : Nat) : ℚ) := by exact_mod_cast hhigh
  rw [value, hgrid]
  dsimp only
  constructor
  · have hscale : (num : ℚ) ≤
        (n + 1 / 2) * (10 ^ k.toNat : Nat) * den / (10 ^ (-k).toNat : Nat) := by
      rw [le_div_iff₀ hbelow]
      push_cast at hhigh' ⊢
      linarith
    rw [div_le_iff₀ hpos]
    calc (num : ℚ) ≤ (n + 1 / 2) * (10 ^ k.toNat : Nat) * den / (10 ^ (-k).toNat : Nat) := hscale
      _ = _ := by ring
  · have hscale : ((n : ℚ) - 1 / 2) * (10 ^ k.toNat : Nat) * den / (10 ^ (-k).toNat : Nat) ≤
        num := by
      rw [div_le_iff₀ hbelow]
      push_cast at hlow' ⊢
      linarith
    rw [← sub_le_iff_le_add, le_div_iff₀ hpos]
    calc _ = ((n : ℚ) - 1 / 2) * (10 ^ k.toNat : Nat) * den / (10 ^ (-k).toNat : Nat) := by ring
      _ ≤ num := hscale

/-- On a grid of seventeen digits the nearer neighbour is rounded to the number. -/
theorem isSome_onGrid (hx : x.Finite) (hstep : (10 : ℚ) ^ k * 10 ^ 16 ≤ x.value)
    (hpos : 0 < x.ratio.1) : (onGrid tie x x.ratio.1 x.ratio.2 k).isSome := by
  obtain ⟨hlow, hhigh⟩ := near_grid tie x.ratio.1 k x.ratio_pos
  rw [x.ratio_div] at hlow hhigh
  have hnear := Binary64.near_of_seventeen hstep hlow hhigh
  unfold onGrid
  dsimp only [Nat.pow_eq]
  generalize roundDiv tie (x.ratio.1 * 10 ^ (-k).toNat) (x.ratio.2 * 10 ^ k.toNat) = n at *
  have hdigits : 0 < n := by
    have hvalue : 0 < value ⟨n, k⟩ := hnear.pos (Binary64.mantissa_pos hpos)
    refine Nat.pos_of_ne_zero ?_
    rintro rfl
    simp [value] at hvalue
  have hit : (toBinary ⟨n, k⟩).magnitude = x.magnitude := by
    refine Binary64.ofRatio_of_near hx (Nat.mul_pos hdigits (Nat.pow_pos (by decide)))
      (ratio_pos ⟨n, k⟩) ?_
    exact (ratio_div ⟨n, k⟩).symm ▸ hnear
  rw [if_pos (decide_eq_true hit)]
  rfl

/-- The search ends with a decimal that reads back when some grid it tries has one. -/
theorem magnitude_search {e : Int} : ∀ {fuel n : Nat}, n ≤ 17 → 17 < n + fuel →
    (onGrid tie x num den (e - 16)).isSome →
      (search tie x num den e fuel n).toBinary.magnitude = x.magnitude := by
  intro fuel
  induction fuel with
  | zero => intro n h h'; omega
  | succ fuel ih =>
      intro n hle hlt hsome
      rw [search]
      split
      · next d hd =>
          rw [toBinary_congr (value_strip 20 d)]
          exact hit_of_onGrid hd
      · next hnone =>
          have hmore : n ≠ 17 := by
            rintro rfl
            rw [show e + 1 - ((17 : Nat) : Int) = e - 16 by omega] at hnone
            rw [hnone] at hsome
            cases hsome
          exact ih (by omega) (by omega) hsome

/-- The shortest decimal of a finite number is rounded to it, its sign aside. -/
theorem magnitude_shortest (tie : Tie) (hx : x.Finite) :
    (shortest tie x).toBinary.magnitude = x.magnitude := by
  unfold shortest
  dsimp only
  split
  · next hzero =>
      rw [Binary64.magnitude_of_ratio hzero]
      rfl
  · next hne =>
      have hpos : 0 < x.ratio.1 := Nat.pos_of_ne_zero hne
      refine magnitude_search (by decide) (by decide) (isSome_onGrid hx ?_ hpos)
      rw [← x.ratio_div]
      calc (10 : ℚ) ^ (floorLog10 x.ratio.1 x.ratio.2 - 16) * 10 ^ 16
          = 10 ^ floorLog10 x.ratio.1 x.ratio.2 := by
            rw [← zpow_natCast, ← zpow_add₀ (by norm_num)]
            congr 1
            omega
        _ ≤ x.ratio.1 / x.ratio.2 := pow_floorLog10_le hpos x.ratio_pos

end Decimal

end Introspect
