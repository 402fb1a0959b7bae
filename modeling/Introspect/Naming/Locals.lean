import Introspect.Naming.Words

/-!
# Local variables

The variables of one generated function. A name asked for again gets the next number after its last
use, and a reserved name has one from the start.
-/

namespace Introspect.Naming

/-- The names of the variables of one function. -/
structure Locals where
  /-- The names given out, latest first, as the name asked for and its number. -/
  given : List (String × Nat) := []
  /-- The variables of the parameters by position, latest first. -/
  params : List (Nat × String) := []
deriving Repr, DecidableEq

namespace Locals

/-- The variable of a name with a number; the number zero is not written. -/
def spelled (name : String) (number : Nat) : String :=
  if number = 0 then name else name ++ toString number

/-- The number that a name gets next; a reserved word starts at one. -/
def nextNumber (l : Locals) (name : String) : Nat :=
  match l.given.lookup name with
  | some n => n + 1
  | none => if isReserved name then 1 else 0

/-- A variable for a name. -/
def alloc (l : Locals) (name : String) : String × Locals :=
  let number := l.nextNumber name
  (spelled name number, { l with given := (name, number) :: l.given })

/-- Allocates the variable of the parameter at `index`. -/
def register (l : Locals) (index : Nat) (name : String) : String × Locals :=
  let (v, l) := l.alloc name
  (v, { l with params := (index, v) :: l.params })

/-- The variable of a parameter; the latest one counts. -/
def param? (l : Locals) (index : Nat) : Option String := l.params.lookup index

end Locals

end Introspect.Naming
