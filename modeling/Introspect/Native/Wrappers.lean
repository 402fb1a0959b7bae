import Introspect.Native.Memory

/-!
# Registered wrappers

The host type that wraps a native instance is chosen by the runtime type in the instance's class:
the wrapper of that type, or of its parent, or of the parent's parent, whichever is registered
first. The type the description names is the last resort. A wrapper makes a host value from the
instance's address, and keeps that address.
-/

namespace Introspect

/-- What native code hands out as an instance. -/
inductive NativeInstance
  | null
  /-- An instance whose class is missing. -/
  | unclassed
  | of (type : TypeId)
deriving Repr, DecidableEq

/-- The runtime type in the class of an instance; without a class it is not valid. -/
def NativeInstance.type : NativeInstance → TypeId
  | .null | .unclassed => {}
  | .of t => t

/-- The instance at an address: its first word leads to its class, and the first word there is its
type. -/
def Memory.instanceAt (m : Memory) (p : Address) : NativeInstance :=
  if p = 0 then .null
  else if m.load p 0 8 = 0 then .unclassed
  else .of ⟨m.load (m.load p 0 8) 0 8⟩

/-- The wrappers by the types they were registered for. -/
structure WrapperRegistry (α : Type) where
  wrappers : List (TypeId × α) := []
  /-- The parent of a type, once the way to ask for it is known. A type without a parent has the
  type that is not valid as its parent. -/
  parentOf : Option (TypeId → TypeId) := none

namespace WrapperRegistry

variable {α : Type}

/-- Registers the wrapper of a type, in place of an earlier one; a type that is not valid has
none. -/
def register (r : WrapperRegistry α) (t : TypeId) (wrapper : α) : WrapperRegistry α :=
  if t.isValid then
    { r with wrappers := (t, wrapper) :: r.wrappers.filter (·.1 ≠ t) }
  else r

/-- Tells how to ask for the parent of a type. -/
def setParents (r : WrapperRegistry α) (parentOf : TypeId → TypeId) : WrapperRegistry α :=
  { r with parentOf := some parentOf }

/-- Whether something was registered for the type. -/
def contains (r : WrapperRegistry α) (t : TypeId) : Bool := (r.wrappers.lookup t).isSome

/-- How many types something was registered for. -/
def size (r : WrapperRegistry α) : Nat := r.wrappers.length

/-- The parent of a type, not valid while nothing can be asked for it. -/
def parent (r : WrapperRegistry α) (t : TypeId) : TypeId :=
  match r.parentOf with
  | some f => f t
  | none => {}

/-- The wrapper of a type or of the first of its ancestors that has one, `steps` types at most. -/
def nearest (r : WrapperRegistry α) (t : TypeId) : Nat → Option α
  | 0 => none
  | steps + 1 =>
      if t.isValid then
        match r.wrappers.lookup t with
        | some w => some w
        | none => r.nearest (r.parent t) steps
      else none

/-- There are no more types than this, so a longer walk has come back to where it was. -/
def typeCount : Nat := UInt64.size

/-- The wrapper of a type or of its nearest ancestor that has one. -/
def resolve (r : WrapperRegistry α) (t : TypeId) : Option α := r.nearest t typeCount

/-- The wrapper that an instance is given; there is none for the null pointer. -/
def wrap (r : WrapperRegistry α) (i : NativeInstance) (fallback : α) : Option α :=
  match i with
  | .null => none
  | i => some ((r.resolve i.type).getD fallback)

/-- The host value for the instance at an address, made from that address. -/
def wrapAt {β : Type} (r : WrapperRegistry (Address → β)) (m : Memory) (p : Address)
    (fallback : Address → β) : Option β :=
  (r.wrap (m.instanceAt p) fallback).map (· p)

end WrapperRegistry

end Introspect
