import Introspect.Descriptor.Argument
import Introspect.Native.Slot
import Introspect.Number.Word

/-!
# Registered closures

Native code cannot hold a function of the host, so it is given a handle instead: the host registers
the function and looks it up again when native code calls back. Handles count up from one and are
never used again, so a handle that outlives its closure finds nothing, and no other closure either.
-/

namespace Introspect

/-- The scope as a message names it. -/
def CallbackScope.label : CallbackScope → String
  | .invalid => "Invalid"
  | .call => "Call"
  | .async => "Async"
  | .notified => "Notified"

/-- What a handle stands for; it is empty if nothing is registered under the handle. -/
structure Closure (α : Type) where
  callable : Option α := none
  scope : CallbackScope := .invalid
deriving Repr, DecidableEq

namespace Closure

variable {α : Type}

/-- Whether there is no function in it. -/
def isEmpty (c : Closure α) : Bool := c.callable.isNone

/-- The closure as it is shown in messages. -/
def text (c : Closure α) : String :=
  s!"Closure \x7b empty: {c.isEmpty}, scope: {c.scope.label} \x7d"

end Closure

/-- The closures that native code may ask for, by their handles. -/
structure ClosureRegistry (α : Type) where
  /-- The last handle given out. -/
  last : Handle := 0
  live : List (Handle × Closure α) := []
deriving Repr

namespace ClosureRegistry

variable {α : Type}

/-- Gives out the next handle; the counter wraps. -/
def register (r : ClosureRegistry α) (f : α) (scope : CallbackScope) : Handle × ClosureRegistry α :=
  let h := r.last + 1
  (h, { last := h, live := (h, ⟨some f, scope⟩) :: r.live.filter (·.1 ≠ h) })

/-- Registers a function, where the count of handles goes on. -/
def register? (arithmetic : Arithmetic) (r : ClosureRegistry α) (f : α) (scope : CallbackScope) :
    Option (Handle × ClosureRegistry α) :=
  (arithmetic.word? (r.last.toNat + 1)).map fun _ => r.register f scope

/-- The closure of a handle; an unknown handle has an empty one. -/
def get (r : ClosureRegistry α) (h : Handle) : Closure α := (r.live.lookup h).getD {}

/-- Whether the handle is registered. -/
def contains (r : ClosureRegistry α) (h : Handle) : Bool := (r.live.lookup h).isSome

/-- Forgets a handle; the answer is whether anything was registered under it. -/
def unregister (r : ClosureRegistry α) (h : Handle) : Bool × ClosureRegistry α :=
  (r.contains h, { r with live := r.live.filter (·.1 ≠ h) })

/-- How many closures are registered. -/
def size (r : ClosureRegistry α) : Nat := r.live.length

end ClosureRegistry

end Introspect
