import Introspect.Binding.Config
import Introspect.Descriptor.Namespace
import Introspect.Naming.Words

/-!
# Names of types

The namespace being bound and its settings decide what a referenced type is called in the generated
source. A reference whose kind the description left open is looked up by name, when it belongs to
this namespace.
-/

namespace Introspect

/-- What a generated binding is written for. -/
structure Scope where
  space : Namespace
  config : Config := {}
deriving Repr, DecidableEq

namespace Scope

/-- The module that holds the bindings of another namespace. -/
def moduleOf (s : Scope) (ns : String) : String :=
  let name := Text.lower ((s.config.depFor? ns).getD ns)
  String.ofList (name.toList.map fun c => if c = '-' ∨ c = '.' then '_' else c)

/-- The other namespace a reference belongs to. -/
def foreignHome? (s : Scope) (r : Reference) : Option String :=
  r.home.filter (· ≠ s.space.name)

/-- Whether a reference belongs to another namespace. -/
def isForeign (s : Scope) (r : Reference) : Bool := (s.foreignHome? r).isSome

/-- The kind of a reference, looked up when it is open and belongs here. -/
def kind (s : Scope) (r : Reference) : ReferenceKind :=
  if r.kind = .unresolved && !s.isForeign r then (s.space.kindOf? r.name).getD .unresolved
  else r.kind

/-- The kind of what a type mentions by name. -/
def kindOf? (s : Scope) (t : NativeType) : Option ReferenceKind := t.reference.map s.kind

/-- The type a reference stands for, as seen from inside its namespace. -/
def localName (s : Scope) (r : Reference) : String :=
  match s.kind r with
  | .enum => Naming.enumType r.name
  | .flags => Naming.flagsType r.name
  | _ => r.name

/-- The type a reference stands for; another namespace's type is reached through its module, which
the file imports. -/
def typeName (s : Scope) (r : Reference) : String :=
  match s.foreignHome? r with
  | some ns =>
      let m := s.moduleOf ns
      m ++ "::" ++ s.localName r ++ "/*use:super::" ++ m ++ "*/"
  | none => s.localName r

end Scope

/-- The type in words, for the remarks on what has no mapping. -/
def NativeType.describe : NativeType → String
  | .plain s => marked s (base s)
  | .of s e => marked s (if s.tag = .array then "array of " ++ e.describe else base s)
where
  base (s : Shape) : String :=
    match s.tag, s.reference with
    | .interface, some r => r.kind.label ++ " " ++ r.name
    | tag, _ => tag.name
  marked (s : Shape) (text : String) : String :=
    if s.isPointer && s.tag ≠ .array then text ++ " pointer" else text

end Introspect
