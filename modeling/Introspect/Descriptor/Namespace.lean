import Introspect.Descriptor.Symbol
import Introspect.Json.Scan

/-!
# Namespaces

All symbols of one library, and the check that no argument refers to a position its callable does
not have.
-/

namespace Introspect

/-- A namespace, as its document describes it. -/
structure Namespace where
  name : String
  version : String
  /-- The library that provides the symbols. -/
  sharedLibrary : Option String := none
  cPrefix : Option String := none
  infos : List Info := []
deriving Repr, DecidableEq

/-- Why a document is refused. -/
inductive DescriptorError
  | parse (fault : Json.Fault)
  /-- An argument refers to a position beyond the last. -/
  | dangling (owner argument : String) (index arity : Nat)
deriving Repr, DecidableEq

/-- What is told of a document that is well formed but inconsistent. -/
def DescriptorError.message : DescriptorError → String
  | .parse _ => "Failed to parse namespace document"
  | .dangling owner argument index arity =>
      "Invalid namespace document: " ++ owner ++ ": argument " ++ argument ++ " refers to index " ++
        toString index ++ " of " ++ toString arity ++ " arguments"

namespace Namespace

/-- The first symbol of a name, with its position. -/
def find? (ns : Namespace) (name : String) : Option (Nat × Info) :=
  findIndexed? (·.name = name) ns.infos

/-- The kind of a type by its name. -/
def kindOf? (ns : Namespace) (name : String) : Option ReferenceKind :=
  (ns.find? name).bind fun (_, info) => info.referenceKind

/-- The first argument with a link beyond the last argument. -/
def danglingIn (owner : String) (args : List Argument) : Option DescriptorError :=
  args.findSome? fun a =>
    (a.links.find? (args.length ≤ ·)).map fun i => .dangling owner a.name i args.length

/-- The first reference of an argument to a position beyond the last. -/
def dangling? (ns : Namespace) : Option DescriptorError :=
  ns.infos.findSome? fun info =>
    info.signatures.findSome? fun (owner, args) => danglingIn owner args

/-- Refuses a namespace with such a reference. -/
def validate (ns : Namespace) : Except DescriptorError Namespace :=
  match ns.dangling? with
  | some e => .error e
  | none => .ok ns

end Namespace

end Introspect
