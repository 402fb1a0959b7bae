/-!
# Cells

The ways a value is put into an argument slot and read out of it. A cell takes the low bytes of a
slot; several cells share a width and differ in what the bytes stand for.
-/

namespace Introspect

/-- What a slot can hold. -/
inductive Cell
  | i8 | u8 | i16 | u16 | i32 | u32 | i64 | u64
  | f32 | f64
  | usize
  | bool | char
  | gtype
  | ptr
  | handle
deriving Repr, DecidableEq, Inhabited

namespace Cell

/-- Every cell. -/
def all : List Cell :=
  [.i8, .u8, .i16, .u16, .i32, .u32, .i64, .u64, .f32, .f64, .usize, .bool, .char, .gtype, .ptr,
    .handle]

/-- The suffix of the functions that write and read the cell. -/
def name : Cell → String
  | .i8 => "i8"
  | .u8 => "u8"
  | .i16 => "i16"
  | .u16 => "u16"
  | .i32 => "i32"
  | .u32 => "u32"
  | .i64 => "i64"
  | .u64 => "u64"
  | .f32 => "f32"
  | .f64 => "f64"
  | .usize => "usize"
  | .bool => "bool"
  | .char => "char"
  | .gtype => "gtype"
  | .ptr => "ptr"
  | .handle => "handle"

/-- The number of bytes the cell takes. -/
def width : Cell → Nat
  | .i8 | .u8 => 1
  | .i16 | .u16 => 2
  | .i32 | .u32 | .f32 | .bool | .char => 4
  | .i64 | .u64 | .f64 | .usize | .gtype | .ptr | .handle => 8

end Cell

end Introspect
