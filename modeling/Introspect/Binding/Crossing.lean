import Introspect.Binding.Value

/-!
# Calls from native code

A callback is entered through a function with a native signature: each parameter arrives as a native
word and is put into a slot, and the host's result is converted to the native return type.
-/

namespace Introspect.Binding

/-- The type of a native parameter or result that travels in a cell. -/
def nativeType : Cell → String
  | .gtype => "gi::GType"
  | .ptr => pointerType
  | c => c.name

/-- The cell a callback's parameter arrives in. -/
def parameterCell? (s : Scope) (t : NativeType) : Option Cell :=
  if t.isPointer then some .ptr
  else
    match t.tag with
    | .void => none
    | .boolean => some .i32
    | .int8 => some .i8
    | .uint8 => some .u8
    | .int16 => some .i16
    | .uint16 => some .u16
    | .int32 => some .i32
    | .uint32 => some .u32
    | .int64 => some .i64
    | .uint64 => some .u64
    | .float => some .f32
    | .double => some .f64
    | .gtype => some .gtype
    | .unichar => some .u32
    | .utf8 | .filename | .array | .glist | .gslist | .ghash | .error => some .ptr
    | .interface =>
        match s.kindOf? t with
        | some .enum => some .i32
        | some .flags => some .u32
        | some .callback => some .ptr
        | _ => none

/-- How a host result becomes a native word. -/
inductive Conversion
  | same | boolToInt | charToInt | text | bits | pointer
deriving Repr, DecidableEq

/-- The expression that converts the value of another one. -/
def Conversion.apply : Conversion → String → String
  | .same, e => e
  | .boolToInt, e => "gi::bool_to_int(" ++ e ++ ")"
  | .charToInt, e => "u32::from(" ++ e ++ ")"
  | .text, e => "gi::c_string(&" ++ e ++ ") as *mut c_void"
  | .bits, e => e ++ ".bits()"
  | .pointer, e => e ++ ".p"

/-- The result of a callback; without a cell there is none. -/
structure Result where
  cell : Option Cell
  host : String
  convert : Conversion := .same
deriving Repr, DecidableEq

namespace Result

/-- Whether nothing is returned. -/
def isVoid (r : Result) : Bool := r.cell.isNone

/-- The native return type, empty where nothing is returned. -/
def native (r : Result) : String := (r.cell.map nativeType).getD ""

/-- What native code gets when there is no one to ask. -/
def fallback (r : Result) : String :=
  match r.cell with
  | none => ""
  | some .f32 | some .f64 => "0.0"
  | some .gtype => "gi::GType::INVALID"
  | some .ptr => "std::ptr::null_mut()"
  | some _ => "0"

/-- The mapping by tag, before the pointer is looked at. -/
def byTag? (s : Scope) (t : NativeType) : Option Result :=
  match t.tag with
  | .void => if t.isPointer then some ⟨some .ptr, pointerType, .same⟩ else some ⟨none, "()", .same⟩
  | .boolean => some ⟨some .i32, "bool", .boolToInt⟩
  | .int8 | .uint8 | .int16 | .uint16 | .int32 | .uint32 | .int64 | .uint64 | .float | .double =>
      (numericCell? t.tag).map fun c => ⟨some c, c.name, .same⟩
  | .gtype => some ⟨some .gtype, "gi::GType", .same⟩
  | .unichar => some ⟨some .u32, "char", .charToInt⟩
  | .utf8 | .filename => some ⟨some .ptr, "String", .text⟩
  | .interface =>
      t.reference.bind fun r =>
        match s.kind r with
        | .enum => some ⟨some .i32, s.typeName r, .bits⟩
        | .flags => some ⟨some .u32, s.typeName r, .bits⟩
        | .struct | .union | .object | .interface =>
            if t.isPointer then some ⟨some .ptr, s.typeName r, .pointer⟩ else none
        | .callback | .unresolved => none
  | .array | .glist | .gslist | .ghash | .error => none

/-- The result mapping of a callback's return type; a pointer must be returned as one. -/
def of? (s : Scope) (t : NativeType) : Option Result :=
  (byTag? s t).filter fun r => !t.isPointer || r.cell = some .ptr

end Result

end Introspect.Binding
