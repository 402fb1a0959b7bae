import Introspect.Proofs.Representation
import Mathlib.Algebra.Group.Int.Defs
import Mathlib.Logic.Function.Defs

/-!
# What a slot reads as

A slot keeps bits and does not know what was put into it. The bits of a value are those of its
cell's width, an integer's in two's complement, and the slot has zeros above them. A reader takes
the low bits of its own width and gives them its own meaning. So a narrow value that is read through
a wider cell is never extended by its sign, and a wide one that is read through a narrower cell
loses its high bits; a value comes back as itself when it is read the way it was written.
-/

namespace Introspect

namespace Cell

/-- The bits of a value, as a number. -/
def pattern : (c : Cell) → c.Host → Nat
  | .i8, v => (v.toInt % 2 ^ 8).toNat
  | .i16, v => (v.toInt % 2 ^ 16).toNat
  | .i32, v => (v.toInt % 2 ^ 32).toNat
  | .i64, v => (v.toInt % 2 ^ 64).toNat
  | .u8, v => v.toNat
  | .u16, v => v.toNat
  | .u32, v => v.toNat
  | .u64, v | .usize, v | .ptr, v | .handle, v => v.toNat
  | .f32, v => v.bits.toNat
  | .f64, v => v.bits.toNat
  | .bool, v => if v then 1 else 0
  | .char, v => v.toNat
  | .gtype, v => v.number.toNat

/-- A code point is a character's unless it is a surrogate or beyond the last. -/
def IsCharOf (n : Nat) (v : Char) : Prop :=
  if (0xD800 ≤ n ∧ n ≤ 0xDFFF) ∨ 0x10FFFF < n then v = '\uFFFD' else v.toNat = n

/-- The value that bits of the cell's width stand for. -/
def Means : (c : Cell) → Nat → c.Host → Prop
  | .i8, n, v => v.toInt = (n : Int).bmod (2 ^ 8)
  | .i16, n, v => v.toInt = (n : Int).bmod (2 ^ 16)
  | .i32, n, v => v.toInt = (n : Int).bmod (2 ^ 32)
  | .i64, n, v => v.toInt = (n : Int).bmod (2 ^ 64)
  | .u8, n, v => v.toNat = n
  | .u16, n, v => v.toNat = n
  | .u32, n, v => v.toNat = n
  | .u64, n, v | .usize, n, v | .ptr, n, v | .handle, n, v => v.toNat = n
  | .f32, n, v => v.bits.toNat = n
  | .f64, n, v => v.bits.toNat = n
  | .bool, n, v => v = true ↔ n ≠ 0
  | .char, n, v => IsCharOf n v
  | .gtype, n, v => v.number.toNat = n

/-! ## Bits of a value -/

/-- The bits of a signed number are its residue. -/
theorem toInt_emod {w : Nat} (x : BitVec w) : (x.toInt % 2 ^ w).toNat = x.toNat := by
  have hcast : ((2 ^ w : Nat) : Int) = 2 ^ w := by norm_cast
  have hlt : (x.toNat : Int) < (2 ^ w : Nat) := by exact_mod_cast x.isLt
  rw [BitVec.toInt_eq_toNat_bmod, ← hcast, Int.bmod_emod,
    Int.emod_eq_of_lt (Int.natCast_nonneg _) hlt, Int.toNat_natCast]

theorem toNat_toBits (c : Cell) (v : c.Host) : (c.toBits v).toNat = c.pattern v := by
  cases c with
  | i8 => exact (UInt8.toNat_toUInt64 _).trans (toInt_emod (Int8.toBitVec v)).symm
  | i16 => exact (UInt16.toNat_toUInt64 _).trans (toInt_emod (Int16.toBitVec v)).symm
  | i32 => exact (UInt32.toNat_toUInt64 _).trans (toInt_emod (Int32.toBitVec v)).symm
  | i64 => exact (toInt_emod (Int64.toBitVec v)).symm
  | bool => cases v <;> rfl
  | char => exact UInt32.toNat_toUInt64 _
  | u8 => exact UInt8.toNat_toUInt64 _
  | u16 => exact UInt16.toNat_toUInt64 _
  | u32 => exact UInt32.toNat_toUInt64 _
  | f32 => exact UInt32.toNat_toUInt64 _
  | u64 | f64 | usize | gtype | ptr | handle => rfl

theorem pattern_lt (c : Cell) (v : c.Host) : c.pattern v < 2 ^ (8 * c.width) := by
  rw [← toNat_toBits]
  exact c.toBits_lt v

/-! ## Meaning of bits -/

theorem IsCharOf.unique {n : Nat} {v w : Char} (hv : IsCharOf n v) (hw : IsCharOf n w) : v = w := by
  unfold IsCharOf at hv hw
  split at hv
  · next h =>
      rw [if_pos h] at hw
      exact hv.trans hw.symm
  · next h =>
      rw [if_neg h] at hw
      exact Char.toNat_inj.mp (hv.trans hw.symm)

theorem isValidChar_iff (n : UInt32) : n.isValidChar ↔
    ¬ ((0xD800 ≤ n.toNat ∧ n.toNat ≤ 0xDFFF) ∨ 0x10FFFF < n.toNat) := by
  show (n.toNat < 0xD800 ∨ 0xDFFF < n.toNat ∧ n.toNat < 0x110000) ↔ _
  omega

theorem isCharOf_charOfCode (n : UInt32) : IsCharOf n.toNat (charOfCode n) := by
  unfold IsCharOf charOfCode
  split
  · next h => rw [dif_neg (mt (isValidChar_iff n).mp (not_not_intro h))]
  · next h =>
      rw [dif_pos ((isValidChar_iff n).mpr h)]
      rfl

theorem isCharOf_toNat (v : Char) : IsCharOf v.toNat v :=
  (if_neg ((isValidChar_iff v.val).mp v.valid)).mpr rfl

/-- Reading gives the low bits of the cell's width the meaning of the cell. -/
theorem means_ofBits (c : Cell) (b : UInt64) :
    c.Means (b.toNat % 2 ^ (8 * c.width)) (c.ofBits b) := by
  have h8 := b.toNat_toUInt8
  have h16 := b.toNat_toUInt16
  have h32 := b.toNat_toUInt32
  have h64 : b.toNat = b.toNat % 2 ^ 64 := (Nat.mod_eq_of_lt b.toNat_lt).symm
  cases c with
  | i8 =>
      rw [show 8 * width .i8 = 8 from rfl, ← h8]
      exact BitVec.toInt_eq_toNat_bmod b.toUInt8.toBitVec
  | i16 =>
      rw [show 8 * width .i16 = 16 from rfl, ← h16]
      exact BitVec.toInt_eq_toNat_bmod b.toUInt16.toBitVec
  | i32 =>
      rw [show 8 * width .i32 = 32 from rfl, ← h32]
      exact BitVec.toInt_eq_toNat_bmod b.toUInt32.toBitVec
  | i64 =>
      rw [show 8 * width .i64 = 64 from rfl, ← h64]
      exact BitVec.toInt_eq_toNat_bmod b.toBitVec
  | u8 => exact h8
  | u16 => exact h16
  | u32 => exact h32
  | f32 => exact h32
  | bool =>
      show decide (b.toUInt32 ≠ 0) = true ↔ b.toNat % 2 ^ 32 ≠ 0
      rw [← h32, decide_eq_true_eq, ne_eq, ← UInt32.toNat_inj]
      rfl
  | char =>
      rw [show 8 * width .char = 32 from rfl, ← h32]
      exact isCharOf_charOfCode _
  | u64 | f64 | usize | gtype | ptr | handle => exact h64

theorem toInt_eq_bmod {w : Nat} (x : BitVec w) :
    x.toInt = ((x.toInt % 2 ^ w).toNat : Int).bmod (2 ^ w) := by
  rw [toInt_emod]
  exact BitVec.toInt_eq_toNat_bmod x

/-- A value is what its own bits stand for. -/
theorem means_pattern (c : Cell) (v : c.Host) : c.Means (c.pattern v) v := by
  cases c with
  | i8 => exact toInt_eq_bmod (Int8.toBitVec v)
  | i16 => exact toInt_eq_bmod (Int16.toBitVec v)
  | i32 => exact toInt_eq_bmod (Int32.toBitVec v)
  | i64 => exact toInt_eq_bmod (Int64.toBitVec v)
  | bool =>
      show v = true ↔ (if v then 1 else 0) ≠ 0
      cases v <;> decide
  | char => exact isCharOf_toNat v
  | u8 | u16 | u32 | u64 | f32 | f64 | usize | gtype | ptr | handle => rfl

/-- Bits stand for one value. -/
theorem Means.unique {c : Cell} {n : Nat} {v w : c.Host} (hv : c.Means n v) (hw : c.Means n w) :
    v = w := by
  cases c with
  | i8 => exact Int8.toInt_inj.mp (Eq.trans hv hw.symm)
  | i16 => exact Int16.toInt_inj.mp (Eq.trans hv hw.symm)
  | i32 => exact Int32.toInt_inj.mp (Eq.trans hv hw.symm)
  | i64 => exact Int64.toInt_inj.mp (Eq.trans hv hw.symm)
  | u8 => exact UInt8.toNat_inj.mp (Eq.trans hv hw.symm)
  | u16 => exact UInt16.toNat_inj.mp (Eq.trans hv hw.symm)
  | u32 => exact UInt32.toNat_inj.mp (Eq.trans hv hw.symm)
  | f32 => exact congrArg Binary32.mk (UInt32.toNat_inj.mp (Eq.trans hv hw.symm))
  | f64 => exact congrArg Binary64.mk (UInt64.toNat_inj.mp (Eq.trans hv hw.symm))
  | gtype => exact congrArg TypeId.mk (UInt64.toNat_inj.mp (Eq.trans hv hw.symm))
  | u64 | usize | ptr | handle => exact UInt64.toNat_inj.mp (Eq.trans hv hw.symm)
  | bool => exact Bool.eq_iff_iff.mpr (Iff.trans hv hw.symm)
  | char => exact IsCharOf.unique hv hw

end Cell

namespace Slot

/-- What a reader sees are the low bits of what was written. -/
theorem means_as (S T : Cell) (v : T.Host) :
    S.Means (T.pattern v % 2 ^ (8 * S.width)) ((of T v).as S) := by
  rw [← Cell.toNat_toBits]
  exact Cell.means_ofBits S _

/-- Read the way it was written, a value is itself. -/
theorem as_of (c : Cell) (v : c.Host) : (of c v).as c = v := by
  have h := means_as c c v
  rw [Nat.mod_eq_of_lt (c.pattern_lt v)] at h
  exact h.unique (c.means_pattern v)

/-- A slot that is written as one cell and read as another reinterprets the bits of the value: those
of the writer's width are in the slot, with zeros above, and the reader gives the low ones of its
own width its own meaning. So what was written can be read back, and no two values look alike. -/
theorem reinterprets (S T : Cell) :
    (∀ v : T.Host, (of T v).bits.toNat = T.pattern v ∧ T.pattern v < 2 ^ (8 * T.width) ∧
      (∀ w : S.Host, (of T v).as S = w ↔ S.Means (T.pattern v % 2 ^ (8 * S.width)) w) ∧
      (of T v).as T = v) ∧
    Function.Injective (of T) := by
  constructor
  · intro v
    refine ⟨T.toNat_toBits v, T.pattern_lt v, fun w => ⟨?_, ?_⟩, as_of T v⟩
    · rintro rfl
      exact means_as S T v
    · intro hw
      exact (means_as S T v).unique hw
  · intro v w heq
    calc v = (of T v).as T := (as_of T v).symm
      _ = (of T w).as T := by rw [heq]
      _ = w := as_of T w

/-- A negative byte is a positive number through a wider cell. -/
example : (of .i8 (-5)).as .i16 = 251 := by decide

end Slot

end Introspect
