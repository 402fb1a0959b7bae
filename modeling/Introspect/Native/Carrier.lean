import Introspect.Native.Failure

/-!
# Carriers

How a value is carried in a native call: as an integer of some width and sign, as a floating-point
number, or as a pointer. An integer narrower than a machine word is widened on the way, by its sign;
the callee looks at the low bytes only. A result is written back widened in the same way, but a
32-bit floating-point result takes four bytes only.
-/

namespace Introspect

/-- What a native function takes in a position, or gives back. -/
inductive Carrier
  | void
  | i8 | u8 | i16 | u16 | i32 | u32 | i64 | u64
  | f32 | f64
  | usize
  | pointer
deriving Repr, DecidableEq, Inhabited

namespace Carrier

/-- The bytes the carrier takes of a slot. -/
def width : Carrier → Nat
  | .void => 0
  | .i8 | .u8 => 1
  | .i16 | .u16 => 2
  | .i32 | .u32 | .f32 => 4
  | .i64 | .u64 | .f64 | .usize | .pointer => 8

/-- The machine word for the low bytes of a number. -/
def widen : Carrier → UInt64 → UInt64
  | .void, _ => 0
  | .i8, b => b.toUInt8.toInt8.toInt64.toUInt64
  | .u8, b => b.toUInt8.toUInt64
  | .i16, b => b.toUInt16.toInt16.toInt64.toUInt64
  | .u16, b => b.toUInt16.toUInt64
  | .i32, b => b.toUInt32.toInt32.toInt64.toUInt64
  | .u32, b | .f32, b => b.toUInt32.toUInt64
  | .i64, b | .u64, b | .f64, b | .usize, b | .pointer, b => b

/-- Writes the word a function has returned over a slot. -/
def deliver (c : Carrier) (word : UInt64) (old : Slot) : Slot :=
  match c with
  | .void => old
  | .f32 => ⟨(old.bits >>> 32 <<< 32) ||| word.toUInt32.toUInt64⟩
  | c => ⟨c.widen word⟩

/-- The carrier of a native type. An instance cannot be passed by value. -/
def of (t : NativeType) : Except LayoutFailure Carrier :=
  if t.isPointer then .ok .pointer
  else
    match t.tag with
    | .void => .ok .void
    | .boolean => .ok .i32
    | .int8 => .ok .i8
    | .uint8 => .ok .u8
    | .int16 => .ok .i16
    | .uint16 => .ok .u16
    | .int32 => .ok .i32
    | .uint32 => .ok .u32
    | .int64 => .ok .i64
    | .uint64 => .ok .u64
    | .float => .ok .f32
    | .double => .ok .f64
    | .gtype => .ok .usize
    | .unichar => .ok .u32
    | .utf8 | .filename | .array | .glist | .gslist | .ghash | .error => .ok .pointer
    | .interface =>
        match t.reference with
        | none => .error .noReference
        | some r =>
            match r.kind with
            | .enum => .ok .i32
            | .flags => .ok .u32
            | .callback => .ok .pointer
            | kind => .error (.byValue kind r.name)

end Carrier

end Introspect
