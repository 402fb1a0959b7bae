import Introspect.Native.Lookup
import Introspect.Native.Repository

/-!
# Invoker caches

A call site asks for its invoker by its number. The first time the cache finds the function in a
repository: the position the call site remembers is tried first and trusted only if name and kind
agree; then the name decides. A method is looked for in the same way inside its container: by
position, by a direct question unless the call site forbids it, and at last one by one. What has
been found stays under the call site's number, and is given to every later call with that number.

Runtime types are kept under numbers of their own; a type that is not valid is not kept.
-/

namespace Introspect

/-- What a namespace's call sites have found. -/
structure InvokerCache where
  /-- The namespace of the call sites. -/
  home : String
  /-- The invokers by the numbers of their call sites. -/
  invokers : List (UInt32 × Invoker) := []
  /-- The runtime types by numbers of their own. -/
  types : List (UInt32 × TypeId) := []
deriving Repr, DecidableEq

namespace InvokerCache

variable {ε : Type}

/-- The symbol of a call site by its name, if its kind agrees. -/
def findNamed (r : Repository ε) (home : String) (l : Lookup) : Asking (Except CallFailure ε) := do
  match ← r.ask? home l.outer with
  | some e => return if r.kind e = l.kind then .ok e else .error (.notFound l.outer home)
  | none => return .error (.notFound l.outer home)

/-- The symbol a call site starts from: by position if name and kind agree, else by name. -/
def findOuter (r : Repository ε) (home : String) (l : Lookup) : Asking (Except CallFailure ε) := do
  match ← r.askAt? home l.outerIndex with
  | some e =>
      if r.name e = l.outer ∧ r.kind e = l.kind then return .ok e else findNamed r home l
  | none => findNamed r home l

/-- The first of the methods from position `i` on that has the name; `count` of them are left. -/
def scanMethods (r : Repository ε) (e : ε) (name : String) (i : Nat) : Nat → Asking (Option ε)
  | 0 => return none
  | count + 1 => do
      match ← r.askMethodAt? e i with
      | some m => if r.name m = name then return some m else scanMethods r e name (i + 1) count
      | none => scanMethods r e name (i + 1) count

/-- The method of a call site by its name: by a direct question, if that is allowed, then one by
one. -/
def findMethod (r : Repository ε) (e : ε) (l : Lookup) : Asking (Option ε) := do
  let asked : Asking (Option ε) := if l.directQuery then r.askMethod? e l.inner else pure none
  match ← asked with
  | some m => return some m
  | none => scanMethods r e l.inner 0 (r.methodCount e)

/-- The method of a call site: by position if the name agrees, else by name. -/
def findInner (r : Repository ε) (e : ε) (l : Lookup) : Asking (Option ε) := do
  match ← r.askMethodAt? e l.innerIndex with
  | some m => if r.name m = l.inner then return some m else findMethod r e l
  | none => findMethod r e l

/-- Finds and prepares the function of a call site. -/
def resolve (r : Repository ε) (home : String) (l : Lookup) :
    Asking (Except CallFailure Invoker) := do
  match ← findOuter r home l with
  | .error f => return .error f
  | .ok e =>
      match l.kind with
      | .function => return r.prepare e
      | .struct | .union | .object | .interface =>
          match ← findInner r e l with
          | some m => return r.prepare m
          | none => return .error (.methodNotFound l.inner l.outer l.kind home)
      | kind => return .error (.unsupported kind)

/-- The invoker of a call site for a function of some namespace. -/
def getIn (c : InvokerCache) (r : Repository ε) (home : String) (l : Lookup) :
    Asking (Except CallFailure Invoker × InvokerCache) := do
  match c.invokers.lookup l.id with
  | some iv => return (.ok iv, c)
  | none =>
      match ← resolve r home l with
      | .ok iv => return (.ok iv, { c with invokers := (l.id, iv) :: c.invokers })
      | .error f => return (.error f, c)

/-- The invoker of a call site. -/
def get (c : InvokerCache) (r : Repository ε) (l : Lookup) :
    Asking (Except CallFailure Invoker × InvokerCache) :=
  c.getIn r c.home l

/-- The number of invokers kept. -/
def size (c : InvokerCache) : Nat := c.invokers.length

/-- The runtime type of a name as the repository has it, or why there is none. -/
def askType (c : InvokerCache) (r : Repository ε) (name : String) :
    Asking (Except String TypeId) := do
  match ← r.ask? c.home name with
  | none => return .error s!"not found type {Text.quoted name} in namespace {c.home}"
  | some e => return (r.typeId e).mapError fun f => s!"failed to get GType of {name}: {f.message}"

/-- The runtime type of a name, kept under a number; a warning says why there is none. -/
def typeOf (c : InvokerCache) (r : Repository ε) (id : UInt32) (name : String) :
    Asking ((TypeId × List String) × InvokerCache) := do
  match c.types.lookup id with
  | some t => return ((t, []), c)
  | none =>
      match ← c.askType r name with
      | .error warning => return (({}, [warning]), c)
      | .ok t =>
          return ((t, []), if t.isValid then { c with types := (id, t) :: c.types } else c)

end InvokerCache

end Introspect
