import Introspect.Descriptor.Namespace
import Introspect.Json.Fields
import Introspect.Json.Printer
import Introspect.Json.Reading

/-!
# The document format

A namespace as JSON. Printing writes every field but the absent ones; reading takes a record by
name or by position, lets fields with a default be missing, and ignores names it does not know. A
symbol carries its kind in the member `kind`, or in its first item.
-/

namespace Introspect

open Json (Fields)

/-- The greatest position and count. -/
abbrev countMax : Nat := UInt64.size - 1

/-- The members of a record; `none` stands for a field that is not written. -/
def writeFields (fields : List (String × Option Json)) : List (String × Json) :=
  fields.filterMap fun (name, j) => j.map fun j => (name, j)

/-- A position or a length, as large as documents may have it. -/
def readCount : Json → Option Nat := Json.natUpTo? countMax

/-- A list in which every item is accepted. -/
def readAll {α : Type} (decode : Json → Option α) (j : Json) : Option (List α) :=
  j.list?.bind fun xs => xs.mapM decode

/-! ## Names of closed sets -/

/-- A tag by its name. -/
def Tag.ofJson? : Json → Option Tag := Json.named? (Tag.all.map fun t => (t.name, t))

/-- A kind by its name. -/
def ReferenceKind.ofJson? : Json → Option ReferenceKind :=
  Json.named? (ReferenceKind.all.map fun k => (k.name, k))

/-- A kind of array by its name. -/
def ArrayKind.ofJson? : Json → Option ArrayKind :=
  Json.named? (ArrayKind.all.map fun k => (k.name, k))

/-- A direction by its name. -/
def Direction.ofJson? : Json → Option Direction :=
  Json.named? (Direction.all.map fun d => (d.name, d))

/-- A transfer by its name. -/
def Transfer.ofJson? : Json → Option Transfer :=
  Json.named? (Transfer.all.map fun t => (t.name, t))

/-- A scope by its name. -/
def CallbackScope.ofJson? : Json → Option CallbackScope :=
  Json.named? (CallbackScope.all.map fun s => (s.name, s))

/-! ## Types -/

namespace Reference

/-- The home is left out when there is none. -/
def toJson (r : Reference) : Json :=
  .object (writeFields
    [("kind", some (.text r.kind.name)), ("name", some (.text r.name)),
      ("namespace", r.home.map .text)])

/-- Only the home may be missing. -/
def ofJson? (j : Json) : Option Reference := do
  let fs ← j.fields? ["kind", "name", "namespace"]
  return {
    kind := ← fs.required "kind" ReferenceKind.ofJson?
    name := ← fs.required "name" Json.text?
    home := ← fs.optional "namespace" Json.text? }

end Reference

namespace NativeType

/-- The fields of a type, in the order they are declared. -/
def fieldNames : List String :=
  ["tag", "is_pointer", "elem_type", "array_length", "array_fixed_size", "zero_terminated",
    "array_kind", "interface"]

/-- The record of a shape around the JSON of its element type. -/
def shapeJson (s : Shape) (elem : Option Json) : Json :=
  .object (writeFields
    [("tag", some (.text s.tag.name)), ("is_pointer", some (.bool s.isPointer)),
      ("elem_type", elem), ("array_length", s.lengthArg.map .nat),
      ("array_fixed_size", s.fixedSize.map .nat),
      ("zero_terminated", some (.bool s.zeroTerminated)),
      ("array_kind", some (.text s.arrayKind.name)), ("interface", s.reference.map (·.toJson))])

/-- A type with the type of its elements in it. -/
def toJson : NativeType → Json
  | .plain s => shapeJson s none
  | .of s e => shapeJson s (some e.toJson)

/-- A shape from its fields, the element type aside. -/
def shapeOf? (fs : Fields) : Option Shape := do
  return {
    tag := ← fs.required "tag" Tag.ofJson?
    isPointer := ← fs.default "is_pointer" false Json.bool?
    lengthArg := ← fs.optional "array_length" readCount
    fixedSize := ← fs.optional "array_fixed_size" readCount
    zeroTerminated := ← fs.default "zero_terminated" false Json.bool?
    arrayKind := ← fs.default "array_kind" .c ArrayKind.ofJson?
    reference := ← fs.optional "interface" Reference.ofJson? }

/-- A type whose element types nest less deep than the fuel. -/
def ofJsonWithin? : Nat → Json → Option NativeType
  | 0, _ => none
  | fuel + 1, j => do
      let fs ← j.fields? fieldNames
      let s ← shapeOf? fs
      match ← fs.optional "elem_type" (ofJsonWithin? fuel) with
      | none => return .plain s
      | some e => return .of s e

end NativeType

/-- A type is nested no deeper than its document. -/
def NativeType.ofJson? (j : Json) : Option NativeType := NativeType.ofJsonWithin? (j.depth + 1) j

/-! ## Callables -/

namespace Argument

/-- The fields of an argument, in the order they are declared. -/
def fieldNames : List String :=
  ["name", "direction", "type", "transfer", "caller_allocates", "nullable", "optional", "closure",
    "destroy", "scope"]

/-- Positions are left out when there are none. -/
def toJson (a : Argument) : Json :=
  .object (writeFields
    [("name", some (.text a.name)), ("direction", some (.text a.direction.name)),
      ("type", some a.type.toJson), ("transfer", some (.text a.transfer.name)),
      ("caller_allocates", some (.bool a.callerAllocates)), ("nullable", some (.bool a.nullable)),
      ("optional", some (.bool a.isOptional)), ("closure", a.closure.map .nat),
      ("destroy", a.destroy.map .nat), ("scope", some (.text a.scope.name))])

/-- The name and the type are required. -/
def ofJson? (j : Json) : Option Argument := do
  let fs ← j.fields? fieldNames
  return {
    name := ← fs.required "name" Json.text?
    direction := ← fs.default "direction" .in Direction.ofJson?
    type := ← fs.required "type" NativeType.ofJson?
    transfer := ← fs.default "transfer" .nothing Transfer.ofJson?
    callerAllocates := ← fs.default "caller_allocates" false Json.bool?
    nullable := ← fs.default "nullable" false Json.bool?
    isOptional := ← fs.default "optional" false Json.bool?
    closure := ← fs.optional "closure" readCount
    destroy := ← fs.optional "destroy" readCount
    scope := ← fs.default "scope" .invalid CallbackScope.ofJson? }

end Argument

namespace FunctionFlags

/-- All flags, set or not. -/
def toJson (f : FunctionFlags) : Json :=
  .object [("is_method", .bool f.isMethod), ("is_constructor", .bool f.isConstructor),
    ("throws", .bool f.throws)]

/-- A missing flag is not set. -/
def ofJson? (j : Json) : Option FunctionFlags := do
  let fs ← j.fields? ["is_method", "is_constructor", "throws"]
  return {
    isMethod := ← fs.default "is_method" false Json.bool?
    isConstructor := ← fs.default "is_constructor" false Json.bool?
    throws := ← fs.default "throws" false Json.bool? }

end FunctionFlags

namespace Function

/-- The fields of a function, in the order they are declared. -/
def fieldNames : List String :=
  ["name", "symbol", "flags", "deprecated", "args", "return_type", "return_transfer",
    "may_return_null", "skip_return"]

/-- The members of the document, without the kind of the symbol. -/
def members (f : Function) : List (String × Json) :=
  [("name", .text f.name), ("symbol", .text f.symbol), ("flags", f.flags.toJson),
    ("deprecated", .bool f.deprecated), ("args", .list (f.args.map (·.toJson))),
    ("return_type", f.returns.toJson), ("return_transfer", .text f.returnTransfer.name),
    ("may_return_null", .bool f.mayReturnNull), ("skip_return", .bool f.skipReturn)]

/-- The name and the symbol are required. -/
def ofFields? (fs : Fields) : Option Function := do
  return {
    name := ← fs.required "name" Json.text?
    symbol := ← fs.required "symbol" Json.text?
    flags := ← fs.default "flags" {} FunctionFlags.ofJson?
    deprecated := ← fs.default "deprecated" false Json.bool?
    args := ← fs.default "args" [] (readAll Argument.ofJson?)
    returns := ← fs.default "return_type" .void NativeType.ofJson?
    returnTransfer := ← fs.default "return_transfer" .nothing Transfer.ofJson?
    mayReturnNull := ← fs.default "may_return_null" false Json.bool?
    skipReturn := ← fs.default "skip_return" false Json.bool? }

/-- A method of a container, which has no kind. -/
def ofJson? (j : Json) : Option Function := (j.fields? fieldNames).bind ofFields?

end Function

namespace Callback

/-- The fields of a callback, in the order they are declared. -/
def fieldNames : List String := ["name", "args", "return_type", "return_transfer", "deprecated"]

/-- The members of the document, without the kind of the symbol. -/
def members (c : Callback) : List (String × Json) :=
  [("name", .text c.name), ("args", .list (c.args.map (·.toJson))),
    ("return_type", c.returns.toJson), ("return_transfer", .text c.returnTransfer.name),
    ("deprecated", .bool c.deprecated)]

/-- Only the name is required. -/
def ofFields? (fs : Fields) : Option Callback := do
  return {
    name := ← fs.required "name" Json.text?
    args := ← fs.default "args" [] (readAll Argument.ofJson?)
    returns := ← fs.default "return_type" .void NativeType.ofJson?
    returnTransfer := ← fs.default "return_transfer" .nothing Transfer.ofJson?
    deprecated := ← fs.default "deprecated" false Json.bool? }

end Callback

/-! ## Types with a name -/

namespace Container

/-- The fields of a container, in the order they are declared. -/
def fieldNames : List String := ["name", "type_init", "parent", "methods", "deprecated"]

/-- The members of the document, without the kind of the symbol. -/
def members (c : Container) : List (String × Json) :=
  writeFields
    [("name", some (.text c.name)), ("type_init", c.typeInit.map .text),
      ("parent", c.parent.map .text),
      ("methods", some (.list (c.methods.map fun f => .object f.members))),
      ("deprecated", some (.bool c.deprecated))]

/-- Only the name is required. -/
def ofFields? (fs : Fields) : Option Container := do
  return {
    name := ← fs.required "name" Json.text?
    typeInit := ← fs.optional "type_init" Json.text?
    parent := ← fs.optional "parent" Json.text?
    methods := ← fs.default "methods" [] (readAll Function.ofJson?)
    deprecated := ← fs.default "deprecated" false Json.bool? }

end Container

namespace EnumMember

/-- A member with its value. -/
def toJson (m : EnumMember) : Json := .object [("name", .text m.name), ("value", .int m.value)]

/-- The value is a signed word. -/
def ofJson? (j : Json) : Option EnumMember := do
  let fs ← j.fields? ["name", "value"]
  return {
    name := ← fs.required "name" Json.text?
    value := ← fs.required "value" (Json.intIn? Int64.minValue.toInt Int64.maxValue.toInt) }

end EnumMember

namespace Enumeration

/-- The fields of an enumeration, in the order they are declared. -/
def fieldNames : List String := ["name", "type_init", "values", "deprecated"]

/-- The members of the document, without the kind of the symbol. -/
def members (e : Enumeration) : List (String × Json) :=
  writeFields
    [("name", some (.text e.name)), ("type_init", e.typeInit.map .text),
      ("values", some (.list (e.values.map (·.toJson)))),
      ("deprecated", some (.bool e.deprecated))]

/-- Only the name is required. -/
def ofFields? (fs : Fields) : Option Enumeration := do
  return {
    name := ← fs.required "name" Json.text?
    typeInit := ← fs.optional "type_init" Json.text?
    values := ← fs.default "values" [] (readAll EnumMember.ofJson?)
    deprecated := ← fs.default "deprecated" false Json.bool? }

end Enumeration

/-! ## Constants -/

namespace ConstantValue

/-- The value itself; documents do not name its type. -/
def toJson : ConstantValue → Json
  | .bool b => .bool b
  | .int i => .int i
  | .float x => .number (.float x)
  | .text s => .text s

/-- An integer beyond 64 signed bits is a floating-point number. -/
def ofJson? : Json → Option ConstantValue
  | .bool b => some (.bool b)
  | .number (.int i) =>
      if Int64.minValue.toInt ≤ i ∧ i ≤ Int64.maxValue.toInt then some (.int i)
      else some (.float (Binary64.ofInt i))
  | .number (.float x) => some (.float x)
  | .text s => some (.text s)
  | _ => none

end ConstantValue

namespace Constant

/-- The fields of a constant, in the order they are declared. -/
def fieldNames : List String := ["name", "value"]

/-- The members of the document, without the kind of the symbol. -/
def members (c : Constant) : List (String × Json) :=
  writeFields [("name", some (.text c.name)), ("value", c.value.map (·.toJson))]

/-- A value without a literal is left out. -/
def ofFields? (fs : Fields) : Option Constant := do
  return {
    name := ← fs.required "name" Json.text?
    value := ← fs.optional "value" ConstantValue.ofJson? }

end Constant

/-! ## Symbols and namespaces -/

namespace Info

/-- The names that tell symbols apart. -/
def kindNames : List String := SymbolKind.all.map SymbolKind.name

/-- The members of the document, without the kind of the symbol. -/
def members : Info → List (String × Json)
  | .function f => f.members
  | .callback c => c.members
  | .container _ c => c.members
  | .enum e | .flags e => e.members
  | .constant c => c.members

/-- The kind comes first. -/
def toJson (i : Info) : Json := .object (("kind", .text i.kind.name) :: i.members)

/-- A symbol of a known kind from the JSON of its fields. -/
def ofKind? (kind : String) (body : Json) : Option Info :=
  let container (k : ContainerKind) : Option Info := do
    return .container k (← Container.ofFields? (← body.fields? Container.fieldNames))
  match kind with
  | "function" => (Function.ofJson? body).map .function
  | "callback" => do return .callback (← Callback.ofFields? (← body.fields? Callback.fieldNames))
  | "struct" => container .struct
  | "union" => container .union
  | "object" => container .object
  | "interface" => container .interface
  | "enum" => do return .enum (← Enumeration.ofFields? (← body.fields? Enumeration.fieldNames))
  | "flags" => do return .flags (← Enumeration.ofFields? (← body.fields? Enumeration.fieldNames))
  | "constant" => do return .constant (← Constant.ofFields? (← body.fields? Constant.fieldNames))
  | _ => none

/-- The kind may stand anywhere in an object, and comes first in a list. -/
def ofJson? : Json → Option Info
  | .object ms => do
      let kind ← (← ms.lookup "kind").text?
      ofKind? kind (.object (ms.filter (·.1 ≠ "kind")))
  | .list (kind :: rest) => do ofKind? (← kind.text?) (.list rest)
  | _ => none

/-- Symbols are read whole before their kind decides what they must hold. -/
def reader : Json.Reader :=
  Json.Reader.checked (fun j => (ofJson? j).isSome)
    (Json.Reader.tagged "kind" kindNames.contains)

end Info

namespace Namespace

/-- The document of a namespace. -/
def toJson (ns : Namespace) : Json :=
  .object (writeFields
    [("namespace", some (.text ns.name)), ("version", some (.text ns.version)),
      ("shared_library", ns.sharedLibrary.map .text), ("c_prefix", ns.cPrefix.map .text),
      ("infos", some (.list (ns.infos.map (·.toJson))))])

/-- The name and the version are required. -/
def ofFields? (fs : Fields) : Option Namespace := do
  return {
    name := ← fs.required "namespace" Json.text?
    version := ← fs.required "version" Json.text?
    sharedLibrary := ← fs.optional "shared_library" Json.text?
    cPrefix := ← fs.optional "c_prefix" Json.text?
    infos := ← fs.default "infos" [] (readAll Info.ofJson?) }

/-- What is accepted where a namespace is expected. -/
def reader : Json.Reader :=
  .record
    [("namespace", .text), ("version", .text), ("shared_library", .optional .text),
      ("c_prefix", .optional .text), ("infos", .list Info.reader)]
    fun fs => (ofFields? fs).isSome

/-- Reads a document, without looking at what its arguments refer to. -/
def parse (text : String) : Json.Reading Namespace := do
  let j ← Json.read reader text
  match (j.fields? ["namespace", "version", "shared_library", "c_prefix", "infos"]).bind
      ofFields? with
  | some ns => .ok ns
  | none => .error .mismatched

/-- Reads and checks a document. -/
def ofText (text : String) : Except DescriptorError Namespace :=
  match parse text with
  | .ok ns => ns.validate
  | .error f => .error (.parse f)

/-- The document of a namespace. -/
def render (ns : Namespace) : String := ns.toJson.pretty

end Namespace

end Introspect
