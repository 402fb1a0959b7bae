import Introspect.Descriptor.Argument
import Introspect.Number.Binary64

/-!
# Symbols

What a namespace can hold: functions, callback types, containers with methods, enumerations and
constants.
-/

namespace Introspect

/-- What decides on the arguments a description does not list. -/
structure FunctionFlags where
  /-- An instance comes before the arguments. -/
  isMethod : Bool := false
  isConstructor : Bool := false
  /-- A place for an error comes after the arguments. -/
  throws : Bool := false
deriving Repr, DecidableEq, Inhabited

/-- A function or a method, and the native symbol behind it. -/
structure Function where
  name : String
  symbol : String
  flags : FunctionFlags := {}
  deprecated : Bool := false
  args : List Argument := []
  returns : NativeType := .void
  returnTransfer : Transfer := .nothing
  mayReturnNull : Bool := false
  skipReturn : Bool := false
deriving Repr, DecidableEq, Inhabited

/-- The number of native arguments, with the instance and the place for an error. -/
def Function.nativeArity (f : Function) : Nat :=
  f.args.length + f.flags.isMethod.toNat + f.flags.throws.toNat

/-- A type of functions that native code calls. -/
structure Callback where
  name : String
  args : List Argument := []
  returns : NativeType := .void
  returnTransfer : Transfer := .nothing
  deprecated : Bool := false
deriving Repr, DecidableEq, Inhabited

/-- A type with methods. -/
structure Container where
  name : String
  /-- The function that yields the container's runtime type. -/
  typeInit : Option String := none
  parent : Option String := none
  methods : List Function := []
  deprecated : Bool := false
deriving Repr, DecidableEq, Inhabited

/-- The first entry that satisfies `p`, with its position. -/
def findIndexed? {α : Type} (p : α → Bool) : List α → Option (Nat × α)
  | [] => none
  | x :: rest => if p x then some (0, x) else (findIndexed? p rest).map fun (i, y) => (i + 1, y)

/-- The first method of a name, with its position. -/
def Container.findMethod? (c : Container) (name : String) : Option (Nat × Function) :=
  findIndexed? (·.name = name) c.methods

/-- A named value. -/
structure EnumMember where
  name : String
  value : Int
deriving Repr, DecidableEq, Inhabited

/-- An enumeration or a set of flags; nothing else tells them apart. -/
structure Enumeration where
  name : String
  typeInit : Option String := none
  values : List EnumMember := []
  deprecated : Bool := false
deriving Repr, DecidableEq, Inhabited

/-- The value of a constant, in the form documents have it. -/
inductive ConstantValue
  | bool (b : Bool)
  | int (i : Int)
  | float (x : Binary64)
  | text (s : String)
deriving Repr, DecidableEq

/-- A named value of the namespace. -/
structure Constant where
  name : String
  /-- Missing when the value has no literal. -/
  value : Option ConstantValue := none
deriving Repr, DecidableEq

/-- The kinds of types that hold methods. -/
inductive ContainerKind
  | struct | union | object | interface
deriving Repr, DecidableEq, Inhabited

/-- How references name the kind. -/
def ContainerKind.referenceKind : ContainerKind → ReferenceKind
  | .struct => .struct
  | .union => .union
  | .object => .object
  | .interface => .interface

/-- The kinds of symbols. -/
inductive SymbolKind
  | function | callback | struct | union | object | interface | enum | flags | constant
deriving Repr, DecidableEq, Inhabited

namespace SymbolKind

/-- Every kind, in the order documents list them. -/
def all : List SymbolKind :=
  [.function, .callback, .struct, .union, .object, .interface, .enum, .flags, .constant]

/-- The name in documents. -/
def name : SymbolKind → String
  | .function => "function"
  | .callback => "callback"
  | .struct => "struct"
  | .union => "union"
  | .object => "object"
  | .interface => "interface"
  | .enum => "enum"
  | .flags => "flags"
  | .constant => "constant"

/-- The kind as it is spelled in generated code. -/
def label : SymbolKind → String
  | .function => "Function"
  | .callback => "Callback"
  | .struct => "Struct"
  | .union => "Union"
  | .object => "Object"
  | .interface => "Interface"
  | .enum => "Enum"
  | .flags => "Flags"
  | .constant => "Constant"

end SymbolKind

/-- The kind among all symbols. -/
def ContainerKind.symbolKind : ContainerKind → SymbolKind
  | .struct => .struct
  | .union => .union
  | .object => .object
  | .interface => .interface

/-- A symbol of a namespace. -/
inductive Info
  | function (f : Function)
  | callback (c : Callback)
  | container (kind : ContainerKind) (c : Container)
  | enum (e : Enumeration)
  | flags (e : Enumeration)
  | constant (c : Constant)
deriving Repr, DecidableEq

namespace Info

/-- The name within the namespace. -/
def name : Info → String
  | .function f => f.name
  | .callback c => c.name
  | .container _ c => c.name
  | .enum e | .flags e => e.name
  | .constant c => c.name

/-- What the symbol is. -/
def kind : Info → SymbolKind
  | .function _ => .function
  | .callback _ => .callback
  | .container k _ => k.symbolKind
  | .enum _ => .enum
  | .flags _ => .flags
  | .constant _ => .constant

/-- The kind a reference to this symbol has; functions and constants are no types. -/
def referenceKind : Info → Option ReferenceKind
  | .function _ | .constant _ => none
  | .callback _ => some .callback
  | .container k _ => some k.referenceKind
  | .enum _ => some .enum
  | .flags _ => some .flags

/-- The container, if the symbol is one. -/
def container? : Info → Option Container
  | .container _ c => some c
  | _ => none

/-- The function, if the symbol is one. -/
def function? : Info → Option Function
  | .function f => some f
  | _ => none

/-- The functions of a symbol: itself or its methods. -/
def functions : Info → List Function
  | .function f => [f]
  | .container _ c => c.methods
  | _ => []

/-- The argument lists of a symbol, each with the name it is reported under. -/
def signatures : Info → List (String × List Argument)
  | .callback c => [(c.name, c.args)]
  | i => i.functions.map fun f => (f.symbol, f.args)

end Info

end Introspect
