import Introspect.Descriptor.Namespace
import Introspect.Native.Invoker

/-!
# Repositories

The metadata that generated code consults when it runs. What a repository is made of is its own
affair: it hands out symbols, and answers what is asked of them. One that is kept in memory has
namespaces by name, and a resolver from symbols to addresses.

Every question for a symbol is counted, whether or not there is an answer, and the questions for a
method by its name once more on their own; so what a cache saves can be seen.
-/

namespace Introspect

/-- The questions a repository has been asked. -/
structure Queries where
  /-- The number of all questions. -/
  lookups : Nat := 0
  /-- Of these, the questions for a method by its name. -/
  methodsByName : Nat := 0
deriving Repr, DecidableEq, Inhabited

/-- A computation that asks questions. -/
abbrev Asking := StateM Queries

/-- Counts one question. -/
def Asking.count (byName : Bool) : Asking Unit :=
  modify fun q =>
    { lookups := q.lookups + 1, methodsByName := q.methodsByName + byName.toNat }

/-- The answers of a repository that does not change; `ε` is what it hands out for a symbol. -/
structure Repository (ε : Type) where
  /-- The number of symbols of a namespace. -/
  size : String → Nat
  /-- The symbol of a namespace at a position. -/
  infoAt? : String → Nat → Option ε
  /-- The symbol of a namespace by name. -/
  infoNamed? : String → String → Option ε
  /-- The name of a symbol. -/
  name : ε → String
  /-- The kind of a symbol. -/
  kind : ε → SymbolKind
  /-- The number of methods of a container. -/
  methodCount : ε → Nat
  /-- The method of a container at a position. -/
  methodAt? : ε → Nat → Option ε
  /-- The method of a container by name. -/
  methodNamed? : ε → String → Option ε
  /-- The function of a symbol, resolved and prepared for calls. -/
  prepare : ε → Except CallFailure Invoker
  /-- The runtime type of a symbol; symbols that register none have no valid one. -/
  typeId : ε → Except CallFailure TypeId

namespace Repository

variable {ε : Type}

/-- Asks for the symbol at a position. -/
def askAt? (r : Repository ε) (home : String) (i : Nat) : Asking (Option ε) := do
  Asking.count false
  return r.infoAt? home i

/-- Asks for a symbol by name. -/
def ask? (r : Repository ε) (home name : String) : Asking (Option ε) := do
  Asking.count false
  return r.infoNamed? home name

/-- Asks a container for the method at a position. -/
def askMethodAt? (r : Repository ε) (e : ε) (i : Nat) : Asking (Option ε) := do
  Asking.count false
  return r.methodAt? e i

/-- Asks a container for a method by name. -/
def askMethod? (r : Repository ε) (e : ε) (name : String) : Asking (Option ε) := do
  Asking.count true
  return r.methodNamed? e name

end Repository

/-! ## Repositories in memory -/

/-- Where the native side of a repository in memory comes from. -/
structure Resolver where
  /-- The address of a symbol. -/
  resolve : String → Except LoadFailure Address
  /-- What the function at an address answers when it is asked for a runtime type. -/
  typeAt : Address → TypeId

/-- A symbol as it is handed out: a symbol of a namespace, or a method of one. -/
inductive Entry
  | top (info : Info)
  | method (f : Function)
deriving Repr, DecidableEq

namespace Entry

/-- The name of the symbol. -/
def name : Entry → String
  | .top info => info.name
  | .method f => f.name

/-- The kind of the symbol; a method is a function. -/
def kind : Entry → SymbolKind
  | .top info => info.kind
  | .method _ => .function

/-- The container that the symbol is. -/
def container? : Entry → Option Container
  | .top info => info.container?
  | .method _ => none

/-- The function that the symbol is. -/
def function? : Entry → Option Function
  | .top info => info.function?
  | .method f => some f

/-- Whether symbols of its kind hold methods. -/
def isContainer (e : Entry) : Bool := e.container?.isSome

/-- The number of its methods. -/
def methodCount (e : Entry) : Nat := (e.container?.map (·.methods.length)).getD 0

/-- The method at a position. -/
def methodAt? (e : Entry) (i : Nat) : Option Entry := do
  let c ← e.container?
  return .method (← c.methods[i]?)

/-- The first method with a name. -/
def methodNamed? (e : Entry) (name : String) : Option Entry := do
  let (_, f) ← (← e.container?).findMethod? name
  return .method f

/-- The function of the symbol, resolved and prepared for calls. -/
def prepare (e : Entry) (r : Resolver) : Except CallFailure Invoker :=
  match e.function? with
  | none => .error (.unsupported e.kind)
  | some f => do
      let address ← (r.resolve f.symbol).mapError .load
      Invoker.prepare f address

/-- The function that yields a registered type. -/
def typeInit? : Entry → Option String
  | .top (.enum e) | .top (.flags e) => e.typeInit
  | .top info => info.container?.bind (·.typeInit)
  | .method _ => none

/-- The runtime type of a symbol; symbols that register none have no valid one. -/
def typeId (e : Entry) (r : Resolver) : Except CallFailure TypeId :=
  match e.typeInit? with
  | none => .ok {}
  | some symbol => (r.resolve symbol).mapError .load |>.map r.typeAt

end Entry

/-- Namespaces in memory, and where their native side comes from. -/
structure MemoryRepository where
  /-- The namespaces by name; the first of a name counts. -/
  namespaces : List (String × Namespace) := []
  /-- Where addresses and runtime types come from. -/
  resolver : Resolver

namespace MemoryRepository

/-- A namespace takes the place of an earlier one of its name. -/
def add (r : MemoryRepository) (ns : Namespace) : MemoryRepository :=
  { r with namespaces := (ns.name, ns) :: r.namespaces.filter (·.1 ≠ ns.name) }

/-- The namespace of a name. -/
def namespaceNamed? (r : MemoryRepository) (name : String) : Option Namespace :=
  r.namespaces.lookup name

/-- The number of symbols of a namespace. -/
def size (r : MemoryRepository) (home : String) : Nat :=
  match r.namespaceNamed? home with
  | some ns => ns.infos.length
  | none => 0

/-- The symbol of a namespace at a position. -/
def infoAt? (r : MemoryRepository) (home : String) (i : Nat) : Option Entry := do
  let ns ← r.namespaceNamed? home
  return .top (← ns.infos[i]?)

/-- The first symbol of a namespace with a name. -/
def infoNamed? (r : MemoryRepository) (home name : String) : Option Entry := do
  let (_, info) ← (← r.namespaceNamed? home).find? name
  return .top info

/-- What it answers. -/
def repository (r : MemoryRepository) : Repository Entry where
  size := r.size
  infoAt? := r.infoAt?
  infoNamed? := r.infoNamed?
  name := Entry.name
  kind := Entry.kind
  methodCount := Entry.methodCount
  methodAt? := Entry.methodAt?
  methodNamed? := Entry.methodNamed?
  prepare e := e.prepare r.resolver
  typeId e := e.typeId r.resolver

@[simp] theorem name_top (r : MemoryRepository) (info : Info) :
    r.repository.name (.top info) = info.name := rfl

@[simp] theorem kind_top (r : MemoryRepository) (info : Info) :
    r.repository.kind (.top info) = info.kind := rfl

@[simp] theorem name_method (r : MemoryRepository) (f : Function) :
    r.repository.name (.method f) = f.name := rfl

end MemoryRepository

end Introspect
