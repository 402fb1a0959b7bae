import Introspect.Binding.Statement

/-!
# Values on their way in

How a host value gets into an argument slot: the host type of the parameter, statements before the
call, the slot itself, and statements after the call. A text needs memory of its own, which is given
back after the call unless the callee comes to own it.
-/

namespace Introspect.Binding

open Naming (Locals)

/-- A host value on its way into a slot. -/
structure Input where
  host : String
  before : List Statement := []
  slot : SlotValue
  after : List Statement := []
deriving Repr, DecidableEq

namespace Input

/-- An input that needs no line of its own. -/
def simple (host : String) (cell : Cell) (value : String) : Input :=
  { host, slot := .make cell value }

/-- An input without a mapping: the placeholder type, and nothing is passed. -/
def unmapped (what : String) : Input := { host := todoType, slot := .unmapped what }

/-- A scalar; pointers to scalars have no mapping. -/
def scalar (t : NativeType) (host : String) (cell : Cell) (value : String) : Input :=
  if t.isPointer then unmapped t.describe else simple host cell value

/-- A text. A nullable one is optional on the host's side too. -/
def text (var : String) (nullable : Bool) (transfer : Transfer) (copy : String) : Input where
  host := if nullable then "Option<&str>" else "&str"
  before := [.copyText copy (if nullable then "gi::c_string_opt" else "gi::c_string") var]
  slot := .make .ptr copy
  after :=
    match transfer with
    | .nothing => [.free copy]
    | .container | .everything => []

/-- An instance, by its pointer. -/
def byPointer (host var : String) (nullable : Bool) : Input :=
  if nullable then
    simple ("Option<" ++ host ++ ">") .ptr (var ++ ".map_or(std::ptr::null_mut(), |v| v.p)")
  else simple host .ptr (var ++ ".p")

/-- A value of a named type. -/
def named (s : Scope) (t : NativeType) (r : Reference) (var : String) (nullable : Bool) : Input :=
  let host := s.typeName r
  match s.kind r with
  | .struct | .union | .object | .interface =>
      if t.isPointer then byPointer host var nullable else unmapped (r.name ++ " by value")
  | .enum => scalar t host .i32 (var ++ ".bits()")
  | .flags => scalar t host .u32 (var ++ ".bits()")
  | .callback => unmapped ("callback " ++ r.name)
  | .unresolved => unmapped t.describe

/-- The way of the host variable `var` into a slot of a native type. -/
def of (s : Scope) (t : NativeType) (var : String) (nullable : Bool) (transfer : Transfer)
    (locals : Locals) : Input × Locals :=
  match t.tag with
  | .void =>
      (if t.isPointer then simple pointerType .ptr var else unmapped "void value", locals)
  | .boolean => (scalar t "bool" .bool var, locals)
  | .int8 | .uint8 | .int16 | .uint16 | .int32 | .uint32 | .int64 | .uint64 | .float | .double =>
      match numericCell? t.tag with
      | some c => (scalar t c.name c var, locals)
      | none => (unmapped t.describe, locals)
  | .gtype => (scalar t "gi::GType" .gtype var, locals)
  | .unichar => (scalar t "char" .char var, locals)
  | .utf8 | .filename =>
      let (copy, locals) := locals.alloc ("c_" ++ var)
      (text var nullable transfer copy, locals)
  | .array =>
      match ArrayHost.of s t with
      | .view type _ => (simple type .ptr (var ++ ".p"), locals)
      | .pointer => (simple pointerType .ptr var, locals)
      | .unmapped what => (unmapped what, locals)
  | .interface =>
      match t.reference with
      | some r => (named s t r var nullable, locals)
      | none => (unmapped "interface without reference", locals)
  | .glist => (byPointer "gi::List" var false, locals)
  | .gslist => (byPointer "gi::SList" var false, locals)
  | .ghash => (byPointer "gi::HashTable" var false, locals)
  | .error => (byPointer "gi::ErrorRef" var false, locals)

end Input

end Introspect.Binding
