import Introspect.Native.Cell
import Introspect.Number.Binary64
import Introspect.Text.Quoted

/-!
# Argument slots

A slot is the eight bytes in which one argument crosses the native boundary, the lowest byte first.
Writing a value puts its bytes at the low end and clears the rest; reading takes as many low bytes
as the reader is wide and never looks at the others. So what a reader sees depends on bits alone: a
narrow value read through a wider cell is not sign-extended.
-/

namespace Introspect

/-- A place in native memory; zero is the null pointer. -/
abbrev Address := UInt64

/-- The number that stands for a registered callback in native code. -/
abbrev Handle := UInt64

/-- The number of a runtime type; zero is no type. -/
structure TypeId where
  number : UInt64 := 0
deriving Repr, DecidableEq, Inhabited

/-- Whether it is a type at all. -/
def TypeId.isValid (t : TypeId) : Bool := t.number ≠ 0

/-- A native list or table, which the host knows by its address alone. -/
structure NativePointer where
  address : Address := 0
deriving Repr, DecidableEq, Inhabited

/-- Whether it points nowhere. -/
def NativePointer.isNull (p : NativePointer) : Bool := p.address = 0

/-- A truth value as native code has it. -/
def truth (b : Bool) : Int32 := if b then 1 else 0

/-- The character with a code point; what is no code point of a character becomes U+FFFD. -/
def charOfCode (n : UInt32) : Char :=
  if h : n.isValidChar then ⟨n, h⟩ else '\uFFFD'

namespace Cell

/-- The host type whose values a cell holds. -/
abbrev Host : Cell → Type
  | .i8 => Int8
  | .u8 => UInt8
  | .i16 => Int16
  | .u16 => UInt16
  | .i32 => Int32
  | .u32 => UInt32
  | .i64 => Int64
  | .u64 => UInt64
  | .f32 => Binary32
  | .f64 => Binary64
  | .usize => UInt64
  | .bool => Bool
  | .char => Char
  | .gtype => TypeId
  | .ptr => Address
  | .handle => Handle

/-- The bytes of a value as a number, the bytes above its width being zero. -/
def toBits : (c : Cell) → c.Host → UInt64
  | .i8, v => v.toUInt8.toUInt64
  | .u8, v => v.toUInt64
  | .i16, v => v.toUInt16.toUInt64
  | .u16, v => v.toUInt64
  | .i32, v => v.toUInt32.toUInt64
  | .u32, v => v.toUInt64
  | .i64, v => v.toUInt64
  | .u64, v => v
  | .f32, v => v.bits.toUInt64
  | .f64, v => v.bits
  | .usize, v => v
  | .bool, v => (truth v).toUInt32.toUInt64
  | .char, v => v.val.toUInt64
  | .gtype, v => v.number
  | .ptr, v => v
  | .handle, v => v

/-- What a reader of the cell sees; it looks at no higher bits. -/
def ofBits : (c : Cell) → UInt64 → c.Host
  | .i8, b => b.toUInt8.toInt8
  | .u8, b => b.toUInt8
  | .i16, b => b.toUInt16.toInt16
  | .u16, b => b.toUInt16
  | .i32, b => b.toUInt32.toInt32
  | .u32, b => b.toUInt32
  | .i64, b => b.toInt64
  | .u64, b => b
  | .f32, b => ⟨b.toUInt32⟩
  | .f64, b => ⟨b⟩
  | .usize, b => b
  | .bool, b => b.toUInt32 ≠ 0
  | .char, b => charOfCode b.toUInt32
  | .gtype, b => ⟨b⟩
  | .ptr, b => b
  | .handle, b => b

end Cell

/-- The eight bytes of an argument, as a number. -/
structure Slot where
  bits : UInt64 := 0
deriving Repr, DecidableEq, Inhabited

namespace Slot

/-- The slot with a value in it. -/
def of (c : Cell) (v : c.Host) : Slot := ⟨c.toBits v⟩

/-- The slot, read as a value of a cell, whatever was put into it. -/
def as (s : Slot) (c : Cell) : c.Host := c.ofBits s.bits

/-- Whether no bit is set. -/
def isNull (s : Slot) : Bool := s.bits = 0

/-- The slot as it is shown in messages. -/
def text (s : Slot) : String :=
  s!"Argument(0x{String.ofList (Text.hexFixed 16 s.bits.toNat)})"

end Slot

end Introspect
