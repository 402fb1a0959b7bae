import Introspect.Binding.Crossing
import Introspect.Binding.Input
import Introspect.Binding.Output
import Introspect.Native.Carrier
import Mathlib.Algebra.Group.Nat.Defs

/-!
# The representation of a type

Four tables say how a native type is represented: the cell a host value is put into, the cell it is
read from, the cell a callback's parameter or result travels in, and the carrier of a native call.
The first three look a reference up by name where its kind was left open, the last does not. So the
four are compared with the last one taken at the type with its references looked up: each of the
other three follows that carrier wherever it has an entry, and looking references up never changes
the carrier of a type that has one already.

That widths agree is worth something only if widths are what a cell stores and what a carrier takes
of a word. Both are shown first.
-/

namespace Introspect

/-! ## Looking references up -/

/-- The reference with its kind looked up. -/
def Scope.resolveReference (s : Scope) (r : Reference) : Reference := { r with kind := s.kind r }

/-- The type with its references looked up. -/
def Scope.resolve (s : Scope) : NativeType → NativeType
  | .plain sh => .plain { sh with reference := sh.reference.map s.resolveReference }
  | .of sh e => .of { sh with reference := sh.reference.map s.resolveReference } (s.resolve e)

section
variable (s : Scope) (t : NativeType)

@[simp] theorem Scope.tag_resolve : (s.resolve t).tag = t.tag := by
  cases t <;> rfl

@[simp] theorem Scope.isPointer_resolve : (s.resolve t).isPointer = t.isPointer := by
  cases t <;> rfl

@[simp] theorem Scope.reference_resolve :
    (s.resolve t).reference = t.reference.map s.resolveReference := by
  cases t <;> rfl

/-- Only an open kind is looked up. -/
theorem Scope.kind_eq {s : Scope} {r : Reference} (h : r.kind ≠ .unresolved) :
    s.kind r = r.kind := by
  rw [Scope.kind, decide_eq_false h, Bool.false_and, if_neg Bool.false_ne_true]

end

namespace Carrier

theorem of_pointer {t : NativeType} (h : t.isPointer = true) : of t = .ok .pointer := by
  rw [of, if_pos h]

/-- Looking references up does not change a carrier that is there. -/
theorem of_resolve {s : Scope} {t : NativeType} {k : Carrier} (h : of t = .ok k) :
    of (s.resolve t) = .ok k := by
  unfold of at h ⊢
  rw [s.isPointer_resolve, s.tag_resolve, s.reference_resolve]
  split
  · next hp => rwa [if_pos hp] at h
  · next hp =>
      rw [if_neg hp] at h
      cases htag : t.tag with
      | interface =>
          simp only [htag] at h ⊢
          cases hr : t.reference with
          | none => rw [hr] at h; cases h
          | some r =>
              simp only [hr] at h
              have hkind : r.kind ≠ .unresolved := by
                intro hopen
                rw [hopen] at h
                cases h
              rw [Option.map_some]
              simp only [Scope.resolveReference, Scope.kind_eq hkind]
              exact h
      | _ =>
          simp only [htag] at h ⊢
          exact h

end Carrier

/-- A reference by value whose kind was left open. -/
def NativeType.IsOpen (t : NativeType) : Prop :=
  t.isPointer = false ∧ t.tag = .interface ∧ t.referenceKind = some .unresolved

instance (t : NativeType) : Decidable t.IsOpen :=
  inferInstanceAs (Decidable (_ ∧ _ ∧ _))

/-- What has a carrier once references are looked up has one from the start, unless it is open. -/
theorem Carrier.of_iff_not_isOpen {s : Scope} {t : NativeType} {k : Carrier}
    (h : of (s.resolve t) = .ok k) : (∃ k', of t = .ok k') ↔ ¬ t.IsOpen := by
  constructor
  · rintro ⟨k', hk'⟩ ⟨hp, htag, hkind⟩
    obtain ⟨r, hr, hkind⟩ := Option.map_eq_some_iff.mp hkind
    unfold of at hk'
    rw [hp, htag, hr] at hk'
    simp only [Bool.false_eq_true, if_false, hkind, reduceCtorEq] at hk'
  · intro hopen
    unfold of at h ⊢
    rw [s.isPointer_resolve, s.tag_resolve, s.reference_resolve] at h
    split
    · exact ⟨_, rfl⟩
    · next hp =>
        rw [if_neg hp] at h
        cases htag : t.tag with
        | interface =>
            simp only [htag] at h ⊢
            cases hr : t.reference with
            | none => rw [hr] at h; cases h
            | some r =>
                have hkind : r.kind ≠ .unresolved := by
                  intro hkind
                  refine hopen ⟨Bool.eq_false_iff.mpr hp, htag, ?_⟩
                  rw [NativeType.referenceKind, hr, Option.map_some, hkind]
                rw [hr, Option.map_some] at h
                simp only [Scope.resolveReference, Scope.kind_eq hkind] at h
                exact ⟨k, h⟩
        | _ =>
            simp only [htag] at h ⊢
            exact ⟨k, h⟩

/-! ## Bytes of a word -/

/-- The number in the lowest bytes of a word. -/
def lowBytes (n : Nat) (word : UInt64) : Nat := word.toNat % 2 ^ (8 * n)

theorem lowBytes_of_lt {n : Nat} {word : UInt64} (h : word.toNat < 2 ^ (8 * n)) :
    lowBytes n word = word.toNat := Nat.mod_eq_of_lt h

theorem toNat_signExtend_mod {w v : Nat} (x : BitVec w) (h : w ≤ v) :
    (x.signExtend v).toNat % 2 ^ w = x.toNat := by
  rw [← BitVec.toNat_setWidth]
  congr 1
  apply BitVec.eq_of_getLsbD_eq
  intro i hi
  simp only [BitVec.getLsbD_setWidth, BitVec.getLsbD_signExtend, hi, Nat.lt_of_lt_of_le hi h,
    decide_true, Bool.true_and, if_true]

/-- Widening keeps the bytes the carrier takes. -/
theorem Carrier.lowBytes_widen (k : Carrier) (word : UInt64) :
    lowBytes k.width (k.widen word) = lowBytes k.width word := by
  unfold lowBytes
  cases k with
  | void => rw [width, Nat.mul_zero, Nat.pow_zero, Nat.mod_one, Nat.mod_one]
  | i8 => exact (toNat_signExtend_mod word.toUInt8.toBitVec (by decide)).trans word.toNat_toUInt8
  | i16 => exact (toNat_signExtend_mod word.toUInt16.toBitVec (by decide)).trans word.toNat_toUInt16
  | i32 => exact (toNat_signExtend_mod word.toUInt32.toBitVec (by decide)).trans word.toNat_toUInt32
  | u8 | u16 | u32 | f32 => simp [width, widen]
  | i64 | u64 | f64 | usize | pointer => rfl

/-- A cell clears the bytes above its width. -/
theorem Cell.toBits_lt (c : Cell) (v : c.Host) : (c.toBits v).toNat < 2 ^ (8 * c.width) := by
  cases c with
  | i8 => exact (Int8.toUInt8 v).toNat_lt
  | u8 => exact UInt8.toNat_lt v
  | i16 => exact (Int16.toUInt16 v).toNat_lt
  | u16 => exact UInt16.toNat_lt v
  | i32 => exact (Int32.toUInt32 v).toNat_lt
  | u32 => exact UInt32.toNat_lt v
  | f32 => exact (Binary32.bits v).toNat_lt
  | bool => exact (truth v).toUInt32.toNat_lt
  | char => exact (Char.val v).toNat_lt
  | i64 | u64 | f64 | usize | gtype | ptr | handle => exact UInt64.toNat_lt _

/-- A cell is read from the bytes of its width alone. -/
theorem Cell.ofBits_congr {c : Cell} {a b : UInt64} (h : lowBytes c.width a = lowBytes c.width b) :
    c.ofBits a = c.ofBits b := by
  have h8 : a.toNat % 2 ^ 8 = b.toNat % 2 ^ 8 → a.toUInt8 = b.toUInt8 := fun h =>
    UInt8.toNat_inj.mp (by rw [a.toNat_toUInt8, b.toNat_toUInt8, h])
  have h16 : a.toNat % 2 ^ 16 = b.toNat % 2 ^ 16 → a.toUInt16 = b.toUInt16 := fun h =>
    UInt16.toNat_inj.mp (by rw [a.toNat_toUInt16, b.toNat_toUInt16, h])
  have h32 : a.toNat % 2 ^ 32 = b.toNat % 2 ^ 32 → a.toUInt32 = b.toUInt32 := fun h =>
    UInt32.toNat_inj.mp (by rw [a.toNat_toUInt32, b.toNat_toUInt32, h])
  have h64 : lowBytes 8 a = lowBytes 8 b → a = b := fun h => by
    rw [lowBytes_of_lt a.toNat_lt, lowBytes_of_lt b.toNat_lt] at h
    exact UInt64.toNat_inj.mp h
  cases c with
  | i8 | u8 => simp only [ofBits, h8 h]
  | i16 | u16 => simp only [ofBits, h16 h]
  | i32 | u32 | f32 | bool | char => simp only [ofBits, h32 h]
  | i64 | u64 | f64 | usize | gtype | ptr | handle => rw [h64 h]

/-- A cell stores what a carrier takes: as many bytes, and a pointer for a pointer. -/
structure Cell.Matches (c : Cell) (k : Carrier) : Prop where
  width : c.width = k.width
  pointer : c = .ptr ↔ k = .pointer

/-- The carrier takes all bytes of the value that a matching cell stored, and no others. -/
theorem Cell.Matches.taken {c : Cell} {k : Carrier} (h : c.Matches k) (v : c.Host) :
    lowBytes k.width (k.widen (Slot.of c v).bits) = (Slot.of c v).bits.toNat := by
  rw [Carrier.lowBytes_widen, ← h.width]
  exact lowBytes_of_lt (c.toBits_lt v)

/-- The cells that native words travel in. The others are the host's alone. -/
def Cell.isNative : Cell → Bool
  | .usize | .bool | .char | .handle => false
  | _ => true

end Introspect

namespace Introspect.Binding

open Naming (Locals)

variable {s : Scope} {t : NativeType} {c : Cell}

/-! ## Cells of the tables -/

/-- The type has, once references are looked up, a carrier that the cell matches. -/
def Represents (s : Scope) (t : NativeType) (c : Cell) : Prop :=
  ∃ k, Carrier.of (s.resolve t) = .ok k ∧ c.Matches k

theorem represents_ptr (h : t.isPointer = true) : Represents s t .ptr :=
  ⟨.pointer, Carrier.of_pointer ((s.isPointer_resolve t).trans h), rfl, by decide⟩

/-- A type of this kind is a pointer whether or not it is marked as one. -/
theorem represents_ptr_of_tag (h : t.tag ∈ [.utf8, .filename, .array, .glist, .gslist, .ghash,
    .error]) :
    Represents s t .ptr := by
  refine ⟨.pointer, ?_, rfl, by decide⟩
  unfold Carrier.of
  rw [s.isPointer_resolve, s.tag_resolve]
  split
  · rfl
  · simp only [List.mem_cons, List.not_mem_nil, or_false] at h
    rcases h with h | h | h | h | h | h | h <;> rw [h]

/-- The cells that a scalar by value travels in, on the host side and on the native side. -/
def scalarCells : Tag → List Cell
  | .boolean => [.bool, .i32]
  | .gtype => [.gtype]
  | .unichar => [.char, .u32]
  | tag => (numericCell? tag).toList

theorem represents_scalar (hp : t.isPointer = false) (h : c ∈ scalarCells t.tag) :
    Represents s t c := by
  unfold Represents Carrier.of
  rw [s.isPointer_resolve, s.tag_resolve, hp]
  cases htag : t.tag with
  | boolean | unichar =>
      rw [htag, scalarCells, List.mem_cons, List.mem_singleton] at h
      rcases h with rfl | rfl
      · exact ⟨_, rfl, rfl, by decide⟩
      · exact ⟨_, rfl, rfl, by decide⟩
  | gtype | int8 | uint8 | int16 | uint16 | int32 | uint32 | int64 | uint64 | float | double =>
      rw [htag] at h
      cases List.mem_singleton.mp h
      exact ⟨_, rfl, rfl, by decide⟩
  | void | utf8 | filename | array | interface | glist | gslist | ghash | error =>
      rw [htag] at h
      cases h

theorem mem_scalarCells {tag : Tag} (h : numericCell? tag = some c) : c ∈ scalarCells tag := by
  cases tag <;> cases h <;> exact List.mem_singleton_self _

theorem represents_kind {r : Reference} (hp : t.isPointer = false) (htag : t.tag = .interface)
    (hr : t.reference = some r)
    (h : (s.kind r = .enum ∧ c = .i32) ∨ (s.kind r = .flags ∧ c = .u32) ∨
      (s.kind r = .callback ∧ c = .ptr)) : Represents s t c := by
  unfold Represents Carrier.of
  rw [s.isPointer_resolve, s.tag_resolve, s.reference_resolve, hp, htag, hr, Option.map_some]
  simp only [Bool.false_eq_true, if_false, Scope.resolveReference]
  rcases h with ⟨hk, rfl⟩ | ⟨hk, rfl⟩ | ⟨hk, rfl⟩ <;> rw [hk] <;> exact ⟨_, rfl, rfl, by decide⟩

/-! ## Ways in -/

/-- The cell that a slot is made as. -/
def SlotValue.cell? : SlotValue → Option Cell
  | .make c _ => some c
  | .unmapped _ => none

namespace Input

theorem cell_scalar {host value : String} {cell : Cell}
    (h : (scalar t host cell value).slot.cell? = some c) : t.isPointer = false ∧ c = cell := by
  unfold scalar at h
  split at h
  · cases h
  · next hp =>
      cases h
      exact ⟨Bool.eq_false_iff.mpr hp, rfl⟩

theorem cell_byPointer {host var : String} {nullable : Bool}
    (h : (byPointer host var nullable).slot.cell? = some c) : c = .ptr := by
  unfold byPointer at h
  split at h <;> cases h <;> rfl

theorem represents_named {r : Reference} {var : String} {nullable : Bool}
    (htag : t.tag = .interface) (hr : t.reference = some r)
    (h : (named s t r var nullable).slot.cell? = some c) : Represents s t c := by
  unfold named at h
  cases hkind : s.kind r with
  | struct | union | object | interface =>
      simp only [hkind] at h
      split at h
      · next hp =>
          rw [cell_byPointer h]
          exact represents_ptr hp
      · cases h
  | enum =>
      simp only [hkind] at h
      obtain ⟨hp, rfl⟩ := cell_scalar h
      exact represents_kind hp htag hr (.inl ⟨hkind, rfl⟩)
  | flags =>
      simp only [hkind] at h
      obtain ⟨hp, rfl⟩ := cell_scalar h
      exact represents_kind hp htag hr (.inr (.inl ⟨hkind, rfl⟩))
  | callback | unresolved =>
      simp only [hkind] at h
      cases h

/-- Whatever a value is put into matches the carrier of its type. -/
theorem represents_of {var : String} {nullable : Bool} {transfer : Transfer} {locals : Locals}
    (h : (of s t var nullable transfer locals).1.slot.cell? = some c) : Represents s t c := by
  unfold of at h
  cases htag : t.tag with
  | void =>
      simp only [htag] at h
      split at h
      · next hp =>
          cases h
          exact represents_ptr hp
      · cases h
  | boolean | int8 | uint8 | int16 | uint16 | int32 | uint32 | int64 | uint64 | float | double
  | gtype | unichar =>
      simp only [htag, numericCell?] at h
      obtain ⟨hp, rfl⟩ := cell_scalar h
      exact represents_scalar hp (by rw [htag]; decide)
  | utf8 | filename =>
      simp only [htag] at h
      cases h
      exact represents_ptr_of_tag (by simp [htag])
  | array =>
      simp only [htag] at h
      cases hhost : ArrayHost.of s t <;> simp only [hhost] at h <;> cases h <;>
        exact represents_ptr_of_tag (by simp [htag])
  | interface =>
      simp only [htag] at h
      cases hr : t.reference with
      | none => simp only [hr] at h; cases h
      | some r =>
          simp only [hr] at h
          exact represents_named htag hr h
  | glist | gslist | ghash | error =>
      simp only [htag] at h
      rw [cell_byPointer h]
      exact represents_ptr_of_tag (by simp [htag])

end Input

/-! ## Ways out -/

/-- The cell a slot is read through; what is not a scalar is read from a pointer. -/
def SlotReading.cell? : SlotReading → Option Cell
  | .cell _ c | .bits _ _ c => some c
  | .text .. | .wrapped .. | .object .. | .array .. => some .ptr
  | .unmapped _ => none

namespace Output

theorem cell_scalar {host slot : String} {cell : Cell}
    (h : (scalar t host slot cell).value.cell? = some c) : t.isPointer = false ∧ c = cell := by
  unfold scalar at h
  split at h
  · cases h
  · next hp =>
      cases h
      exact ⟨Bool.eq_false_iff.mpr hp, rfl⟩

theorem cell_bits {host slot : String} {cell : Cell}
    (h : (bits t host slot cell).value.cell? = some c) : t.isPointer = false ∧ c = cell := by
  unfold bits at h
  split at h
  · cases h
  · next hp =>
      cases h
      exact ⟨Bool.eq_false_iff.mpr hp, rfl⟩

theorem represents_named {r : Reference} {slot : String} {declared : Bool}
    (htag : t.tag = .interface) (hr : t.reference = some r)
    (h : (named s t r slot declared).value.cell? = some c) : Represents s t c := by
  unfold named at h
  cases hkind : s.kind r with
  | struct | union | interface =>
      simp only [hkind] at h
      split at h
      · next hp =>
          cases h
          exact represents_ptr hp
      · cases h
  | object =>
      simp only [hkind] at h
      split at h
      · cases h
      · next hp =>
          split at h <;> cases h <;> exact represents_ptr (by simpa using hp)
  | enum =>
      simp only [hkind] at h
      obtain ⟨hp, rfl⟩ := cell_bits h
      exact represents_kind hp htag hr (.inl ⟨hkind, rfl⟩)
  | flags =>
      simp only [hkind] at h
      obtain ⟨hp, rfl⟩ := cell_bits h
      exact represents_kind hp htag hr (.inr (.inl ⟨hkind, rfl⟩))
  | callback | unresolved =>
      simp only [hkind] at h
      cases h

theorem cell_array {slot : String} {length : ArrayLength} {locals : Locals}
    (h : (array s t slot length locals).1.value.cell? = some c) : c = .ptr := by
  unfold array at h
  cases hhost : ArrayHost.of s t with
  | view type path => simp only [hhost] at h; cases length <;> cases h <;> rfl
  | pointer => simp only [hhost] at h; cases h; rfl
  | unmapped what => simp only [hhost] at h; cases h

/-- Whatever a value is read through matches the carrier of its type. -/
theorem represents_of {slot : String} {length : ArrayLength} {o : OutputOptions} {locals : Locals}
    (h : (of s t slot length o locals).1.value.cell? = some c) : Represents s t c := by
  unfold of at h
  cases htag : t.tag with
  | void =>
      simp only [htag] at h
      split at h
      · next hp =>
          cases h
          exact represents_ptr hp
      · cases h
  | boolean | int8 | uint8 | int16 | uint16 | int32 | uint32 | int64 | uint64 | float | double
  | gtype | unichar =>
      simp only [htag, numericCell?] at h
      obtain ⟨hp, rfl⟩ := cell_scalar h
      exact represents_scalar hp (by rw [htag]; decide)
  | utf8 | filename | glist | gslist | ghash | error =>
      simp only [htag] at h
      cases h
      exact represents_ptr_of_tag (by simp [htag])
  | array =>
      simp only [htag] at h
      rw [cell_array h]
      exact represents_ptr_of_tag (by simp [htag])
  | interface =>
      simp only [htag] at h
      cases hr : t.reference with
      | none => simp only [hr] at h; cases h
      | some r =>
          simp only [hr] at h
          exact represents_named htag hr h

end Output

/-! ## Crossings -/

/-- The bytes of a native word by its type. -/
def nativeWidth? : String → Option Nat
  | "i8" | "u8" => some 1
  | "i16" | "u16" => some 2
  | "i32" | "u32" | "f32" => some 4
  | "i64" | "u64" | "f64" | "gi::GType" => some 8
  | type => if type = pointerType then some 8 else none

theorem nativeWidth_nativeType (h : c.isNative = true) :
    nativeWidth? (nativeType c) = some c.width := by
  cases c <;> first | rfl | cases h

/-- What a callback's parameter arrives in matches the carrier of its type. -/
theorem represents_of_parameter (h : parameterCell? s t = some c) :
    c.isNative = true ∧ Represents s t c := by
  unfold parameterCell? at h
  split at h
  · next hp =>
      cases h
      exact ⟨rfl, represents_ptr hp⟩
  · next hp =>
      rw [Bool.not_eq_true] at hp
      cases htag : t.tag with
      | void => simp only [htag] at h; cases h
      | boolean | int8 | uint8 | int16 | uint16 | int32 | uint32 | int64 | uint64 | float | double
      | gtype | unichar =>
          simp only [htag] at h
          cases h
          exact ⟨rfl, represents_scalar hp (by rw [htag]; decide)⟩
      | utf8 | filename | array | glist | gslist | ghash | error =>
          simp only [htag] at h
          cases h
          exact ⟨rfl, represents_ptr_of_tag (by simp [htag])⟩
      | interface =>
          simp only [htag] at h
          cases hr : t.reference with
          | none => simp only [Scope.kindOf?, hr, Option.map_none] at h; cases h
          | some r =>
              simp only [Scope.kindOf?, hr, Option.map_some] at h
              cases hkind : s.kind r <;> simp only [hkind] at h <;> cases h
              · exact ⟨rfl, represents_kind hp htag hr (.inl ⟨hkind, rfl⟩)⟩
              · exact ⟨rfl, represents_kind hp htag hr (.inr (.inl ⟨hkind, rfl⟩))⟩
              · exact ⟨rfl, represents_kind hp htag hr (.inr (.inr ⟨hkind, rfl⟩))⟩

/-- What a callback's result leaves in matches the carrier of its type. -/
theorem represents_of_result {r : Result} (h : Result.of? s t = some r) (hc : r.cell = some c) :
    c.isNative = true ∧ Represents s t c := by
  obtain ⟨hby, hpointer⟩ := Option.filter_eq_some_iff.mp h
  cases hp : t.isPointer with
  | true =>
      rw [hp, hc] at hpointer
      simp only [Bool.not_true, Bool.false_or, decide_eq_true_eq, Option.some.injEq] at hpointer
      subst hpointer
      exact ⟨rfl, represents_ptr hp⟩
  | false =>
      unfold Result.byTag? at hby
      cases htag : t.tag with
      | void =>
          simp only [htag, hp, Bool.false_eq_true, if_false] at hby
          cases hby
          cases hc
      | boolean | int8 | uint8 | int16 | uint16 | int32 | uint32 | int64 | uint64 | float | double
      | gtype | unichar =>
          simp only [htag, numericCell?, Option.map_some] at hby
          cases hby
          cases hc
          exact ⟨rfl, represents_scalar hp (by rw [htag]; decide)⟩
      | utf8 | filename =>
          simp only [htag] at hby
          cases hby
          cases hc
          exact ⟨rfl, represents_ptr_of_tag (by simp [htag])⟩
      | array | glist | gslist | ghash | error => simp only [htag] at hby; cases hby
      | interface =>
          simp only [htag] at hby
          obtain ⟨ref, hr, hby⟩ := Option.bind_eq_some_iff.mp hby
          cases hkind : s.kind ref <;> simp only [hkind, hp, Bool.false_eq_true,
            if_false] at hby <;>
            cases hby <;> cases hc
          · exact ⟨rfl, represents_kind hp htag hr (.inl ⟨hkind, rfl⟩)⟩
          · exact ⟨rfl, represents_kind hp htag hr (.inr (.inl ⟨hkind, rfl⟩))⟩

/-! ## Agreement -/

namespace Represents

theorem matches_of {k : Carrier} (h : Represents s t c) (hk : Carrier.of t = .ok k) :
    c.Matches k := by
  obtain ⟨k', hk', hmatch⟩ := h
  rw [Carrier.of_resolve hk] at hk'
  cases hk'
  exact hmatch

/-- Cells that represent one type store the same bytes, and pointers alike. -/
theorem same {d : Cell} (hc : Represents s t c) (hd : Represents s t d) :
    c.width = d.width ∧ (c = .ptr ↔ d = .ptr) := by
  obtain ⟨k, hk, hck⟩ := hc
  obtain ⟨k', hk', hdk⟩ := hd
  rw [hk] at hk'
  cases hk'
  exact ⟨hck.width.trans hdk.width.symm, hck.pointer.trans hdk.pointer.symm⟩

end Represents

/-- The tables agree on a type. -/
structure Agree (s : Scope) (t : NativeType) : Prop where
  /-- A call takes the bytes a host value is put into, all of them and no others. -/
  input : ∀ {var nullable transfer locals c k},
    (Input.of s t var nullable transfer locals).1.slot.cell? = some c → Carrier.of t = .ok k →
      c.width = k.width ∧ (c = .ptr ↔ k = .pointer) ∧
        ∀ v : c.Host, lowBytes k.width (k.widen (Introspect.Slot.of c v).bits) =
          (Introspect.Slot.of c v).bits.toNat
  /-- What a callback's parameter left in a slot is what its host value is read from. -/
  parameter : ∀ {p r slot length o locals},
    parameterCell? s t = some p → (Output.of s t slot length o locals).1.value.cell? = some r →
      r.width = p.width ∧ (r = .ptr ↔ p = .ptr) ∧
        (∀ v : p.Host, lowBytes r.width (Introspect.Slot.of p v).bits =
          (Introspect.Slot.of p v).bits.toNat) ∧
            ∀ x y : Introspect.Slot, lowBytes p.width x.bits = lowBytes p.width y.bits →
              x.as r = y.as r
  /-- A callback's parameter has the size its type has in a call. -/
  nativeParameter : ∀ {p k}, parameterCell? s t = some p → Carrier.of t = .ok k →
    nativeWidth? (nativeType p) = some p.width ∧ p.width = k.width
  /-- A callback's result has the size its type has in a call. -/
  nativeResult : ∀ {r k}, Result.of? s t = some r → r.isVoid = false → Carrier.of t = .ok k →
    nativeWidth? r.native = some k.width

/-- The tables agree on every type, whatever the namespace. -/
theorem agree (s : Scope) (t : NativeType) : Agree s t := by
  constructor
  case input =>
    intro var nullable transfer locals c k hc hk
    have hmatch := (Input.represents_of hc).matches_of hk
    exact ⟨hmatch.width, hmatch.pointer, hmatch.taken⟩
  case parameter =>
    intro p r slot length o locals hp hr
    obtain ⟨hwidth, hptr⟩ := (Output.represents_of hr).same (represents_of_parameter hp).2
    refine ⟨hwidth, hptr, ?_, ?_⟩
    · intro v
      rw [hwidth]
      exact lowBytes_of_lt (p.toBits_lt v)
    · intro x y hxy
      rw [← hwidth] at hxy
      exact Cell.ofBits_congr hxy
  case nativeParameter =>
    intro p k hp hk
    obtain ⟨hnative, hrepr⟩ := represents_of_parameter hp
    exact ⟨nativeWidth_nativeType hnative, (hrepr.matches_of hk).width⟩
  case nativeResult =>
    intro r k hr hvoid hk
    cases hc : r.cell with
    | none => rw [Result.isVoid, hc] at hvoid; cases hvoid
    | some c =>
        obtain ⟨hnative, hrepr⟩ := represents_of_result hr hc
        rw [Result.native, hc, ← (hrepr.matches_of hk).width]
        exact nativeWidth_nativeType hnative

end Introspect.Binding
