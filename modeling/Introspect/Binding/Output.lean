import Introspect.Binding.Value
import Introspect.Naming.Locals

/-!
# Values on their way out

How a slot becomes a host value. An array needs its length: from the argument that carries it, from
its fixed size, or by a search for its end; an object is wrapped by its type at run time, for which
the runtime context is needed, unless its declared type is asked for.
-/

namespace Introspect.Binding

open Naming (Locals)

/-- Where the length that goes with an array is found after the call. -/
inductive LengthPlace
  | outSlot (block : String) (index : Nat) (cell : Cell)
  | parameter (name : String)
deriving Repr, DecidableEq

/-- The expression that gives the length. -/
def LengthPlace.text : LengthPlace → String
  | .outSlot block index cell => block ++ "[" ++ toString index ++ "].as_" ++ cell.name ++ "()"
  | .parameter name => name

/-- Where the length of an array comes from. -/
inductive ArrayLength
  | along (place : LengthPlace)
  | fixed (n : Nat)
  | zeroTerminated
  | unknown
deriving Repr, DecidableEq

/-- The length of an array; one that goes with it comes first. -/
def ArrayLength.of (t : NativeType) (along : Option LengthPlace) : ArrayLength :=
  match along, t.fixedSize with
  | some place, _ => .along place
  | none, some n => .fixed n
  | none, none => if t.zeroTerminated then .zeroTerminated else .unknown

/-- How a value is taken out of a slot. -/
inductive SlotReading
  | cell (slot : String) (c : Cell)
  /-- A member of an enumeration or a set of flags. -/
  | bits (host slot : String) (c : Cell)
  /-- A text, copied or taken over. -/
  | text (slot : String) (nullable owned : Bool)
  | wrapped (host slot : String)
  /-- An object, wrapped by its type at run time. -/
  | object (host slot : String)
  /-- A view of an array; `var` holds it while its length is set. -/
  | array (path slot var : String) (length : ArrayLength)
  | unmapped (what : String)
deriving Repr, DecidableEq

namespace SlotReading

/-- An array whose length is set by one more statement. -/
def sized (path slot var set : String) : String :=
  braced ("let mut " ++ var ++ " = " ++ path ++ "::new(" ++ slot ++ ".as_ptr(), 0); " ++ set ++
    " " ++ var)

/-- The expression that gives the host value. -/
def expression : SlotReading → String
  | .cell slot c => slot ++ ".as_" ++ c.name ++ "()"
  | .bits host slot c => host ++ "::from_bits(" ++ slot ++ ".as_" ++ c.name ++ "())"
  | .text slot nullable owned =>
      let method := (if owned then "take" else "copy") ++ (if nullable then "_opt" else "")
      "unsafe " ++ braced (slot ++ ".as_str()." ++ method ++ "()")
  | .wrapped host slot => host ++ " " ++ braced ("p: " ++ slot ++ ".as_ptr()")
  | .object host slot =>
      "unsafe " ++ braced
        ("ctx.wrappers.wrap(" ++ slot ++ ".as_ptr(), " ++ host ++ "::wrap_object)")
  | .array path slot var (.along n) =>
      sized path slot var (var ++ ".set_len(" ++ n.text ++ " as i64);")
  | .array path slot var .zeroTerminated =>
      sized path slot var ("unsafe " ++ braced (var ++ ".set_len_zt()") ++ ";")
  | .array path slot _ (.fixed n) => path ++ "::new(" ++ slot ++ ".as_ptr(), " ++ toString n ++ ")"
  | .array path slot _ .unknown => path ++ "::new(" ++ slot ++ ".as_ptr(), 0)"
  | .unmapped what => todoType ++ todoMark what

/-- Whether the expression refers to the runtime context. -/
def needsContext : SlotReading → Bool
  | .object .. => true
  | _ => false

end SlotReading

/-- A value that comes back, in its host type. -/
structure Output where
  host : String
  value : SlotReading
deriving Repr, DecidableEq

/-- What bears on a value's way out, its type aside. -/
structure OutputOptions where
  transfer : Transfer := .nothing
  nullable : Bool := false
  /-- Objects are wrapped by their declared type. -/
  declaredType : Bool := false
deriving Repr, DecidableEq

namespace Output

/-- An output without a mapping, of the placeholder type. -/
def unmapped (what : String) : Output := ⟨todoType, .unmapped what⟩

/-- A value without a mapping shows in its host type. -/
def isTodo (o : Output) : Bool := o.host = todoType

/-- A number; behind a pointer it has no mapping. -/
def scalar (t : NativeType) (host slot : String) (c : Cell) : Output :=
  if t.isPointer then unmapped t.describe else ⟨host, .cell slot c⟩

/-- A text, which may be missing, and which is taken over when it is handed over. -/
def text (slot : String) (nullable : Bool) (transfer : Transfer) : Output :=
  ⟨if nullable then "Option<String>" else "String", .text slot nullable transfer.ownsContainer⟩

/-- A host type that keeps the pointer it is made from. -/
def byPointer (host slot : String) : Output := ⟨host, .wrapped host slot⟩

/-- A member of an enumeration or a set of flags; behind a pointer it has no mapping. -/
def bits (t : NativeType) (host slot : String) (c : Cell) : Output :=
  if t.isPointer then unmapped t.describe else ⟨host, .bits host slot c⟩

/-- A value of a type that is mentioned by name, by the kind of the type. -/
def named (s : Scope) (t : NativeType) (r : Reference) (slot : String) (declaredType : Bool) :
    Output :=
  let host := s.typeName r
  match s.kind r with
  | .struct | .union | .interface =>
      if t.isPointer then byPointer host slot else unmapped (r.name ++ " by value")
  | .object =>
      if !t.isPointer then unmapped (r.name ++ " by value")
      else if declaredType then byPointer host slot
      else ⟨"Option<gi::DynObject>", .object host slot⟩
  | .enum => bits t host slot .i32
  | .flags => bits t host slot .u32
  | .callback | .unresolved => unmapped t.describe

/-- An array. Only a length that has to be set takes a variable. -/
def array (s : Scope) (t : NativeType) (slot : String) (length : ArrayLength) (locals : Locals) :
    Output × Locals :=
  match ArrayHost.of s t with
  | .view type path =>
      match length with
      | .along _ | .zeroTerminated =>
          let (var, locals) := locals.alloc "arr"
          (⟨type, .array path slot var length⟩, locals)
      | .fixed _ | .unknown => (⟨type, .array path slot "" length⟩, locals)
  | .pointer => (⟨pointerType, .cell slot .ptr⟩, locals)
  | .unmapped what => (unmapped what, locals)

/-- The output of a type that is read from `slot`. -/
def of (s : Scope) (t : NativeType) (slot : String) (length : ArrayLength) (o : OutputOptions)
    (locals : Locals) : Output × Locals :=
  match t.tag with
  | .void => (if t.isPointer then ⟨pointerType, .cell slot .ptr⟩ else unmapped "void value", locals)
  | .boolean => (scalar t "bool" slot .bool, locals)
  | .int8 | .uint8 | .int16 | .uint16 | .int32 | .uint32 | .int64 | .uint64 | .float | .double =>
      match numericCell? t.tag with
      | some c => (scalar t c.name slot c, locals)
      | none => (unmapped t.describe, locals)
  | .gtype => (scalar t "gi::GType" slot .gtype, locals)
  | .unichar => (scalar t "char" slot .char, locals)
  | .utf8 | .filename => (text slot o.nullable o.transfer, locals)
  | .array => array s t slot length locals
  | .interface =>
      match t.reference with
      | some r => (named s t r slot o.declaredType, locals)
      | none => (unmapped "interface without reference", locals)
  | .glist => (byPointer "gi::List" slot, locals)
  | .gslist => (byPointer "gi::SList" slot, locals)
  | .ghash => (byPointer "gi::HashTable" slot, locals)
  | .error => (byPointer "gi::ErrorRef" slot, locals)

end Output

end Introspect.Binding
