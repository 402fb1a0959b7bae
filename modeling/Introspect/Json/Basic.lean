import Introspect.Number.Binary64

/-!
# JSON values

A number is an integer when it is written as one and fits a 64-bit word, signed or not, and a
floating-point number otherwise. The members of an object keep their order, and a name may occur
twice.
-/

namespace Introspect

namespace Json

/-- A number, as its literal is written. -/
inductive Number
  | int (i : Int)
  | float (x : Binary64)
deriving Repr, DecidableEq

end Json

/-- A document. The members of an object keep their order, and may repeat. -/
inductive Json
  | null
  | bool (b : Bool)
  | number (n : Json.Number)
  | text (s : String)
  | list (items : List Json)
  | object (members : List (String × Json))
deriving Repr, Inhabited

namespace Json

/-- An integer value. -/
def int (i : Int) : Json := .number (.int i)

/-- A natural number value. -/
def nat (n : Nat) : Json := .number (.int n)

/-- The text, if it is one. -/
def text? : Json → Option String
  | .text s => some s
  | _ => none

/-- The truth value, if it is one. -/
def bool? : Json → Option Bool
  | .bool b => some b
  | _ => none

/-- The items, if it is a list. -/
def list? : Json → Option (List Json)
  | .list xs => some xs
  | _ => none

/-- An integer in a range. -/
def intIn? (low high : Int) : Json → Option Int
  | .number (.int i) => if low ≤ i ∧ i ≤ high then some i else none
  | _ => none

/-- A natural number up to a bound. -/
def natUpTo? (high : Nat) (j : Json) : Option Nat :=
  (j.intIn? 0 high).map Int.toNat

mutual

/-- How deep containers nest. -/
def depth : Json → Nat
  | .list xs => depthItems xs + 1
  | .object ms => depthMembers ms + 1
  | _ => 0

/-- The depth of the deepest item. -/
def depthItems : List Json → Nat
  | [] => 0
  | x :: rest => max x.depth (depthItems rest)

/-- The depth of the deepest member. -/
def depthMembers : List (String × Json) → Nat
  | [] => 0
  | (_, x) :: rest => max x.depth (depthMembers rest)

end

end Json

end Introspect
