/-!
# Native types

The shape of a value that crosses the native boundary: a basic tag, whether it is passed by pointer,
what an array says about its length, and the named type a reference stands for. Only arrays and
lists have an element type, but a description may give one to any type.
-/

namespace Introspect

/-- The basic classes of native values. -/
inductive Tag
  | void | boolean
  | int8 | uint8 | int16 | uint16 | int32 | uint32 | int64 | uint64
  | float | double
  | gtype
  | utf8 | filename
  | array | interface
  | glist | gslist | ghash
  | error | unichar
deriving Repr, DecidableEq, Inhabited

namespace Tag

/-- Every tag, in the order it is declared. -/
def all : List Tag :=
  [.void, .boolean, .int8, .uint8, .int16, .uint16, .int32, .uint32, .int64, .uint64, .float,
    .double, .gtype, .utf8, .filename, .array, .interface, .glist, .gslist, .ghash, .error,
    .unichar]

/-- The name in documents. -/
def name : Tag → String
  | .void => "void"
  | .boolean => "boolean"
  | .int8 => "int8"
  | .uint8 => "uint8"
  | .int16 => "int16"
  | .uint16 => "uint16"
  | .int32 => "int32"
  | .uint32 => "uint32"
  | .int64 => "int64"
  | .uint64 => "uint64"
  | .float => "float"
  | .double => "double"
  | .gtype => "gtype"
  | .utf8 => "utf8"
  | .filename => "filename"
  | .array => "array"
  | .interface => "interface"
  | .glist => "glist"
  | .gslist => "gslist"
  | .ghash => "ghash"
  | .error => "error"
  | .unichar => "unichar"

/-- Numbers of a fixed width; truth values are none. -/
def isNumeric : Tag → Bool
  | .int8 | .uint8 | .int16 | .uint16 | .int32 | .uint32 | .int64 | .uint64 | .float
  | .double => true
  | _ => false

/-- Whether the tag is that of a text. -/
def isString : Tag → Bool
  | .utf8 | .filename => true
  | _ => false

end Tag

/-- What kind of named type a reference stands for. -/
inductive ReferenceKind
  | struct | union | object | interface | enum | flags | callback
  /-- The name is not known to the description. -/
  | unresolved
deriving Repr, DecidableEq, Inhabited

namespace ReferenceKind

/-- Every kind, with the open one last. -/
def all : List ReferenceKind :=
  [.struct, .union, .object, .interface, .enum, .flags, .callback, .unresolved]

/-- The name in documents. -/
def name : ReferenceKind → String
  | .struct => "struct"
  | .union => "union"
  | .object => "object"
  | .interface => "interface"
  | .enum => "enum"
  | .flags => "flags"
  | .callback => "callback"
  | .unresolved => "unresolved"

/-- The kind as a message names it. -/
def label : ReferenceKind → String
  | .struct => "Struct"
  | .union => "Union"
  | .object => "Object"
  | .interface => "Interface"
  | .enum => "Enum"
  | .flags => "Flags"
  | .callback => "Callback"
  | .unresolved => "Unresolved"

/-- Kinds whose values are handled through a pointer to an instance. -/
def isInstance : ReferenceKind → Bool
  | .struct | .union | .object | .interface => true
  | _ => false

end ReferenceKind

/-- How an array is stored. -/
inductive ArrayKind
  | c | array | ptrArray | byteArray
deriving Repr, DecidableEq, Inhabited

namespace ArrayKind

/-- Every kind of array. -/
def all : List ArrayKind := [.c, .array, .ptrArray, .byteArray]

/-- The name in documents. -/
def name : ArrayKind → String
  | .c => "c"
  | .array => "array"
  | .ptrArray => "ptr_array"
  | .byteArray => "byte_array"

end ArrayKind

/-- A named type; without a namespace it belongs to the one being described. -/
structure Reference where
  kind : ReferenceKind
  name : String
  home : Option String := none
deriving Repr, DecidableEq, Inhabited

/-- A native type, its element type aside. -/
structure Shape where
  tag : Tag
  isPointer : Bool := false
  /-- The argument that carries an array's length. -/
  lengthArg : Option Nat := none
  fixedSize : Option Nat := none
  zeroTerminated : Bool := false
  arrayKind : ArrayKind := .c
  reference : Option Reference := none
deriving Repr, DecidableEq, Inhabited

/-- A type: its shape, and the type of its elements if it has one. -/
inductive NativeType
  | plain (shape : Shape)
  | of (shape : Shape) (elem : NativeType)
deriving Repr, DecidableEq, Inhabited

namespace NativeType

/-- All of a type but its elements. -/
def shape : NativeType → Shape
  | .plain s | .of s _ => s

/-- The type of the elements. -/
def elem? : NativeType → Option NativeType
  | .plain _ => none
  | .of _ e => some e

/-- The same type with another shape around its element type. -/
def mapShape (f : Shape → Shape) : NativeType → NativeType
  | .plain s => .plain (f s)
  | .of s e => .of (f s) e

/-- The tag of the shape. -/
abbrev tag (t : NativeType) : Tag := t.shape.tag
/-- Whether a value is passed by pointer. -/
abbrev isPointer (t : NativeType) : Bool := t.shape.isPointer
/-- The position of the argument with the length. -/
abbrev lengthArg (t : NativeType) : Option Nat := t.shape.lengthArg
/-- The length, when it is always the same. -/
abbrev fixedSize (t : NativeType) : Option Nat := t.shape.fixedSize
/-- Whether an element without a set bit ends the array. -/
abbrev zeroTerminated (t : NativeType) : Bool := t.shape.zeroTerminated
/-- The kind of array. -/
abbrev arrayKind (t : NativeType) : ArrayKind := t.shape.arrayKind
/-- What the type mentions by name. -/
abbrev reference (t : NativeType) : Option Reference := t.shape.reference

/-- A type that is its tag alone. -/
def scalar (tag : Tag) : NativeType := .plain ⟨tag, false, none, none, false, .c, none⟩

/-- No value. -/
def void : NativeType := scalar .void

/-- The same type, passed by pointer. -/
def pointer (t : NativeType) : NativeType := t.mapShape fun s => { s with isPointer := true }

/-- A pointer to anything. -/
def voidPointer : NativeType := void.pointer

/-- A text. -/
def utf8 : NativeType := (scalar .utf8).pointer

/-- A text that names a file. -/
def filename : NativeType := (scalar .filename).pointer

/-- A reference to a named type; instances are passed by pointer. -/
def named (kind : ReferenceKind) (name : String) : NativeType :=
  .plain ⟨.interface, kind.isInstance, none, none, false, .c, some ⟨kind, name, none⟩⟩

/-- A plain array whose length, if an argument carries it, stands at `length`. -/
def cArray (elem : NativeType) (length : Option Nat) (zeroTerminated : Bool) : NativeType :=
  .of ⟨.array, true, length, none, zeroTerminated, .c, none⟩ elem

/-- The same type with its reference placed in a namespace. -/
def inNamespace (ns : String) (t : NativeType) : NativeType :=
  t.mapShape fun s =>
    { s with reference := s.reference.map fun r => { r with home := some ns } }

/-- The kind the type mentions, as the document has it. -/
def referenceKind (t : NativeType) : Option ReferenceKind := t.reference.map (·.kind)

/-- The name the type mentions. -/
def referenceName (t : NativeType) : Option String := t.reference.map (·.name)

/-- A reference to a struct, union, object or interface. -/
def isInstance (t : NativeType) : Bool :=
  t.tag = .interface && t.referenceKind.any ReferenceKind.isInstance

/-- No value at all. -/
def isVoid (t : NativeType) : Bool := t.tag = .void && !t.isPointer

end NativeType

end Introspect
