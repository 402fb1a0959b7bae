/-!
# Reading 32-bit integers

A signed 32-bit integer in decimal: an optional sign and at least one digit. Reading goes from left
to right and stops at the first fault, so a number that is already too large hides a letter after
it.
-/

namespace Introspect

/-- Why a text is no integer. -/
inductive IntegerFault
  | empty
  | invalidDigit
  | tooLarge
  | tooSmall
deriving Repr, DecidableEq

/-- The text of the fault. -/
def IntegerFault.message : IntegerFault → String
  | .empty => "cannot parse integer from empty string"
  | .invalidDigit => "invalid digit found in string"
  | .tooLarge => "number too large to fit in target type"
  | .tooSmall => "number too small to fit in target type"

namespace Signed32

/-- The magnitude of digits that follow those of `n`; past `limit` the fault is `excess`. -/
def magnitude (limit : Nat) (excess : IntegerFault) (n : Nat) : List Char → Except IntegerFault Nat
  | [] => .ok n
  | c :: rest =>
      if c.isDigit then
        let n := 10 * n + (c.toNat - '0'.toNat)
        if n ≤ limit then magnitude limit excess n rest else .error excess
      else .error .invalidDigit

/-- At least one digit. -/
def digits (limit : Nat) (excess : IntegerFault) : List Char → Except IntegerFault Nat
  | [] => .error .invalidDigit
  | cs => magnitude limit excess 0 cs

/-- The integer a text stands for. -/
def parse (s : String) : Except IntegerFault Int32 :=
  match s.toList with
  | [] => .error .empty
  | '-' :: rest => (digits 0x80000000 .tooSmall rest).map fun n => Int32.ofInt (-n)
  | '+' :: rest => (digits 0x7FFFFFFF .tooLarge rest).map fun n => Int32.ofInt n
  | cs => (digits 0x7FFFFFFF .tooLarge cs).map fun n => Int32.ofInt n

end Signed32

end Introspect
