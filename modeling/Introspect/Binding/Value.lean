import Introspect.Binding.Scope
import Introspect.Native.Cell

/-!
# Host values

The generated code handles each native value as a host value of some type. This module holds the
spellings shared by the ways in and out, and the views that arrays have.
-/

namespace Introspect.Binding

/-- The host type of an untyped pointer. -/
def pointerType : String := "*mut c_void/*use:std::ffi::c_void*/"

/-- The host type of a value without a mapping. -/
def todoType : String := "gi::Todo"

/-- A comment that marks something left undone. -/
def todoMark (what : String) : String := "/*TODO " ++ what ++ "*/"

/-- Statements or fields between braces, on one line. -/
def braced (body : String) : String := "\x7b " ++ body ++ " \x7d"

/-- Expressions in parentheses. -/
def tuple (parts : List String) : String := "(" ++ ", ".intercalate parts ++ ")"

/-- The cell of a number of a fixed width. -/
def numericCell? : Tag → Option Cell
  | .int8 => some .i8
  | .uint8 => some .u8
  | .int16 => some .i16
  | .uint16 => some .u16
  | .int32 => some .i32
  | .uint32 => some .u32
  | .int64 => some .i64
  | .uint64 => some .u64
  | .float => some .f32
  | .double => some .f64
  | _ => none

/-- The value of a host type that a function returns when it cannot be called. -/
def zeroValue (host : String) : String :=
  if "*mut".toList.isPrefixOf host.toList then "std::ptr::null_mut()" else "Default::default()"

/-- The host type of an array. -/
inductive ArrayHost
  /-- A view of the elements: its type, and the type as it stands in an expression. -/
  | view (type path : String)
  /-- An untyped pointer. -/
  | pointer
  | unmapped (what : String)
deriving Repr, DecidableEq

namespace ArrayHost

/-- A view whose type is spelled alike everywhere. -/
def fixed (type : String) : ArrayHost := .view type type

/-- A view of elements that are stored as they are. -/
def native (elem : String) : ArrayHost :=
  .view ("gi::NativeArray<" ++ elem ++ ">") ("gi::NativeArray::<" ++ elem ++ ">")

/-- The view of pointers, where the elements are pointers. -/
def ofPointers (elem : NativeType) (otherwise : ArrayHost) : ArrayHost :=
  if elem.isPointer then fixed "gi::PointerArray" else otherwise

/-- The view of elements stored by value, where they are. -/
def ofValues (elem : NativeType) (view otherwise : ArrayHost) : ArrayHost :=
  if elem.isPointer then otherwise else view

/-- The host type of an array, by the type of its elements. Only plain arrays are viewed; those with
a header of their own are passed as pointers. -/
def of (s : Scope) (t : NativeType) : ArrayHost :=
  if t.arrayKind ≠ .c then .pointer
  else
    match t.elem? with
    | none => .unmapped "array without element type"
    | some e =>
        let todo : ArrayHost := .unmapped t.describe
        match e.tag with
        | .void => ofPointers e todo
        | .boolean => ofValues e (fixed "gi::BoolArray") todo
        | .int8 | .uint8 | .int16 | .uint16 | .int32 | .uint32 | .int64 | .uint64 | .float
        | .double =>
            match numericCell? e.tag with
            | some c => ofValues e (native c.name) todo
            | none => todo
        | .gtype => ofValues e (native "gi::GType") todo
        | .unichar => ofValues e (native "u32") todo
        | .utf8 | .filename => fixed "gi::CStrArray"
        | .array | .glist | .gslist | .ghash | .error => ofPointers e todo
        | .interface =>
            match s.kindOf? e with
            | none => todo
            | some .struct | some .union | some .object | some .interface => ofPointers e .pointer
            | some .enum => native "i32"
            | some .flags => native "u32"
            | some .callback => fixed "gi::PointerArray"
            | some .unresolved => todo

end ArrayHost

end Introspect.Binding
