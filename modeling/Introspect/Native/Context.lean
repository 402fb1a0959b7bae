import Introspect.Native.Cache
import Introspect.Native.Closures
import Introspect.Native.Wrappers

/-!
# Contexts

Everything the generated code of a namespace keeps while the program runs: the repository it was
given, the invokers and runtime types it has found, the closures and the wrappers it has registered.
The context comes into being with the first repository and keeps that one.
-/

namespace Introspect

/-- What the generated code of a namespace keeps. -/
structure Context (ε α β : Type) where
  /-- The repository that was given first. -/
  repository : Repository ε
  /-- The invokers and runtime types that have been found. -/
  cache : InvokerCache
  /-- The closures that native code may call. -/
  closures : ClosureRegistry α := {}
  /-- What makes wrappers of native objects. -/
  wrappers : WrapperRegistry β := {}
  /-- What the repository has been asked. -/
  queries : Queries := {}

namespace Context

variable {ε α β : Type}

/-- The context as it is shown in messages. -/
def text (c : Context ε α β) : String :=
  s!"Context \x7b namespace: {Text.quoted c.cache.home}, invokers: {c.cache.size}, " ++
    s!"closures: {c.closures.size}, wrappers: {c.wrappers.size} \x7d"

/-- The invoker of a call site. -/
def invoker (c : Context ε α β) (l : Lookup) : Except CallFailure Invoker × Context ε α β :=
  let ((iv, cache), queries) := (c.cache.get c.repository l).run c.queries
  (iv, { c with cache, queries })

/-- A runtime type kept under a number, with the warnings given on the way. -/
def typeOf (c : Context ε α β) (id : UInt32) (name : String) :
    (TypeId × List String) × Context ε α β :=
  let ((t, cache), queries) := (c.cache.typeOf c.repository id name).run c.queries
  (t, { c with cache, queries })

end Context

/-- The place of a namespace's context. -/
structure ContextCell (ε α β : Type) where
  /-- The namespace. -/
  home : String
  /-- The context, once it has come into being. -/
  content : Option (Context ε α β) := none

namespace ContextCell

variable {ε α β : Type}

/-- Whether the context has come into being. -/
def isInitialized (c : ContextCell ε α β) : Bool := c.content.isSome

/-- The context, which must have come into being. -/
def get (c : ContextCell ε α β) : Except CallFailure (Context ε α β) :=
  match c.content with
  | some ctx => .ok ctx
  | none => .error (.uninitialized c.home)

/-- Brings the context into being; a later repository is passed over with a warning. -/
def init (c : ContextCell ε α β) (r : Repository ε) :
    (Context ε α β × List String) × ContextCell ε α β :=
  match c.content with
  | some ctx => ((ctx, [s!"namespace {c.home} is already initialized"]), c)
  | none =>
      let ctx : Context ε α β := { repository := r, cache := { home := c.home } }
      ((ctx, []), { c with content := some ctx })

end ContextCell

end Introspect
