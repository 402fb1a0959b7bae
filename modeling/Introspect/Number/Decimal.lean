import Introspect.Number.Binary64

/-!
# Decimal text of a binary number

`shortest` finds the fewest decimal digits that read back as the same number: on each grid of one,
two, three … digits it tries the two neighbours of the number, and of two that read back it takes
the nearer. How the digits are then laid out is a `Style`. `fixed` writes a number with a given
count of places instead, rounded from its exact value.
-/

namespace Introspect

/-- The number `digits · 10 ^ exponent`. -/
structure Decimal where
  digits : Nat
  exponent : Int
deriving Repr, DecidableEq

namespace Decimal

/-- The value as a fraction. -/
def ratio (d : Decimal) : Nat × Nat :=
  (d.digits * Nat.pow 10 d.exponent.toNat, Nat.pow 10 (-d.exponent).toNat)

/-- The nearest floating point number. -/
def toBinary (d : Decimal) : Binary64 :=
  let (num, den) := d.ratio
  .ofRatio false num den

/-- Without trailing zeros, at most `fuel` of them. -/
def strip (d : Decimal) : Nat → Decimal
  | 0 => d
  | fuel + 1 =>
      if d.digits ≠ 0 ∧ d.digits % 10 = 0 then strip ⟨d.digits / 10, d.exponent + 1⟩ fuel else d

/-- The exponent of the greatest power of ten that is at most `num / den`. -/
def floorLog10 (num den : Nat) : Int :=
  if den ≤ num then ((Nat.toDigits 10 (num / den)).length : Int) - 1
  else -((Nat.toDigits 10 ((den - 1) / num)).length : Int)

/-- The nearer of the two neighbours of `num / den` on the grid of `10 ^ k` that read back as
`x`. -/
def onGrid (tie : Tie) (x : Binary64) (num den : Nat) (k : Int) : Option Decimal :=
  let a := num * Nat.pow 10 (-k).toNat
  let b := den * Nat.pow 10 k.toNat
  let low := a / b
  let nearer := roundDiv tie a b
  let farther := if nearer = low then low + 1 else low
  let hit (n : Nat) : Bool := (toBinary ⟨n, k⟩).magnitude = x.magnitude
  if hit nearer then some ⟨nearer, k⟩
  else if hit farther then some ⟨farther, k⟩
  else none

/-- Tries the grids of `n`, `n + 1`, … digits. -/
def search (tie : Tie) (x : Binary64) (num den : Nat) (e : Int) : Nat → Nat → Decimal
  | 0, _ => ⟨0, 0⟩
  | fuel + 1, n =>
      match onGrid tie x num den (e + 1 - n) with
      | some d => d.strip 20
      | none => search tie x num den e fuel (n + 1)

/-- The shortest decimal that reads back as the finite number `x`, its sign left out. -/
def shortest (tie : Tie) (x : Binary64) : Decimal :=
  let (num, den) := x.ratio
  if num = 0 then ⟨0, 0⟩ else search tie x num den (floorLog10 num den) 17 1

/-- How digits are laid out: positionally when the first digit stands for a power of ten whose
exponent lies in `least … most`, else with an exponent, which has a plus sign if `plus` says so. -/
structure Style where
  tie : Tie
  least : Int
  most : Int
  plus : Bool
deriving Repr, DecidableEq

/-- The digits with a point, and a zero on either side of it where no digit stands. -/
def positional (d : Decimal) : String :=
  let ds := Nat.toDigits 10 d.digits
  if d.exponent ≥ 0 then
    String.ofList (ds ++ List.replicate d.exponent.toNat '0') ++ ".0"
  else
    let places := (-d.exponent).toNat
    let padded := List.replicate (places + 1 - ds.length) '0' ++ ds
    String.ofList (padded.take (padded.length - places) ++ '.' ::
      padded.drop (padded.length - places))

/-- One digit before the point, and the power of ten after `e`. -/
def scientific (plus : Bool) (d : Decimal) : String :=
  let ds := Nat.toDigits 10 d.digits
  let point := match ds.drop 1 with
    | [] => []
    | more => '.' :: more
  let e : Int := d.exponent + (ds.length - 1 : Nat)
  String.ofList (ds.take 1 ++ point) ++ (if plus && 0 ≤ e then "e+" else "e") ++ toString e

end Decimal

namespace Binary64

/-- The shortest decimal that reads back as the number, spelled in a style. -/
def text (style : Decimal.Style) (x : Binary64) : String :=
  if x.isNaN then "NaN"
  else
    let sign := if x.negative then "-" else ""
    if x.isInfinite then sign ++ "inf"
    else
      let d := Decimal.shortest style.tie x
      let e : Int := d.exponent + ((Nat.toDigits 10 d.digits).length - 1 : Nat)
      if d.digits = 0 || (style.least ≤ e && e ≤ style.most) then sign ++ d.positional
      else sign ++ d.scientific style.plus

/-- A number that is not negative, with `places` decimals; a tie goes to the even digit. -/
def fixed (places : Nat) (x : Binary64) : String :=
  let (num, den) := x.ratio
  let one := Nat.pow 10 places
  let scaled := roundDiv .even (num * one) den
  let fraction := Nat.toDigits 10 (scaled % one)
  toString (scaled / one) ++ "." ++
    String.ofList (List.replicate (places - fraction.length) '0' ++ fraction)

end Binary64

end Introspect
