/-!
# Binary floating point

A 64-bit floating-point number is its bit pattern, so that equality tells the two zeros apart. A
finite one stands for a ratio of natural numbers with a sign, and `ofRatio` is the other way: it
rounds any ratio to the nearest number, a tie to the even pattern, and overflows to infinity. Sums
aside, every operation here is the exact one on ratios followed by that rounding.
-/

namespace Introspect

/-- Which of two equally near neighbours is taken. -/
inductive Tie
  | even
  | up
deriving Repr, DecidableEq

/-- The natural number nearest to `num / den`. -/
def roundDiv (tie : Tie) (num den : Nat) : Nat :=
  let q := num / den
  let r := num % den
  if 2 * r < den then q
  else if den < 2 * r then q + 1
  else
    match tie with
    | .even => q + q % 2
    | .up => q + 1

/-- A floating point number of 64 bits. -/
structure Binary64 where
  bits : UInt64
deriving Repr, DecidableEq, Inhabited

/-- A floating point number of 32 bits. -/
structure Binary32 where
  bits : UInt32
deriving Repr, DecidableEq, Inhabited

/-- A natural number times a power of two, with a sign. -/
structure Dyadic where
  negative : Bool
  mantissa : Nat
  exponent : Int
deriving Repr, DecidableEq

namespace Binary64

/-- Whether the sign is set, that of zero too. -/
def negative (x : Binary64) : Bool := x.bits.toNat ≥ 1 <<< 63

/-- All bits but the sign. -/
def magnitude (x : Binary64) : Nat := x.bits.toNat % (1 <<< 63)

/-- Whether it is no number. -/
def isNaN (x : Binary64) : Bool := x.magnitude > 0x7FF <<< 52

/-- Whether it is an infinity. -/
def isInfinite (x : Binary64) : Bool := x.magnitude = 0x7FF <<< 52

/-- Whether it is one of the two zeros. -/
def isZero (x : Binary64) : Bool := x.magnitude = 0

/-- A sign before the other bits. -/
def ofMagnitude (negative : Bool) (magnitude : Nat) : Binary64 :=
  ⟨UInt64.ofNat (if negative then 1 <<< 63 + magnitude else magnitude)⟩

/-- One of the two zeros. -/
def zero (negative : Bool) : Binary64 := ofMagnitude negative 0

/-- One of the two infinities. -/
def infinity (negative : Bool) : Binary64 := ofMagnitude negative (0x7FF <<< 52)

/-- The value of a finite number; small ones have no hidden bit. -/
def toDyadic (x : Binary64) : Dyadic :=
  let field : Nat := x.magnitude >>> 52
  let fraction : Nat := x.magnitude % (1 <<< 52)
  if field = 0 then ⟨x.negative, fraction, -1074⟩
  else ⟨x.negative, 1 <<< 52 + fraction, (field : Int) - 1075⟩

/-- The number as a ratio of natural numbers, its sign left out. -/
def ratio (x : Binary64) : Nat × Nat :=
  let d := x.toDyadic
  (d.mantissa <<< d.exponent.toNat, 1 <<< (-d.exponent).toNat)

/-- The exponent of the greatest power of two that is at most `num / den`. -/
def floorLog2 (num den : Nat) : Int :=
  let e : Int := (num.log2 : Int) - den.log2
  if num <<< (-e).toNat < den <<< e.toNat then e - 1 else e

/-- The number nearest to `num / den`, for a positive `den`. -/
def ofRatio (negative : Bool) (num den : Nat) : Binary64 :=
  if num = 0 then zero negative
  else
    let q : Int := max (floorLog2 num den - 52) (-1074)
    let mantissa := roundDiv .even (num <<< (-q).toNat) (den <<< q.toNat)
    let magnitude := (q + 1074).toNat <<< 52 + mantissa
    if magnitude ≥ 0x7FF <<< 52 then infinity negative else ofMagnitude negative magnitude

/-- The nearest number to a natural one. -/
def ofNat (n : Nat) : Binary64 := ofRatio false n 1

/-- The nearest number to an integer. -/
def ofInt (i : Int) : Binary64 := ofRatio (i < 0) i.natAbs 1

/-- The number with the other sign. -/
def neg (x : Binary64) : Binary64 := ofMagnitude (!x.negative) x.magnitude

/-- A NaN with its quiet bit set. -/
def quiet (x : Binary64) : Binary64 :=
  if x.magnitude.testBit 51 then x else ofMagnitude x.negative (x.magnitude + 1 <<< 51)

/-- The NaN that an operation without a value makes. -/
def noValue : Binary64 := ofMagnitude true (0xFFF <<< 51)

/-- The product; the first NaN wins. -/
def mul (x y : Binary64) : Binary64 :=
  let sign := xor x.negative y.negative
  if x.isNaN then x.quiet
  else if y.isNaN then y.quiet
  else if x.isInfinite then if y.isZero then noValue else infinity sign
  else if y.isInfinite then if x.isZero then noValue else infinity sign
  else
    let (a, b) := x.ratio
    let (c, d) := y.ratio
    ofRatio sign (a * c) (b * d)

/-- The quotient; the first NaN wins. -/
def div (x y : Binary64) : Binary64 :=
  let sign := xor x.negative y.negative
  if x.isNaN then x.quiet
  else if y.isNaN then y.quiet
  else if x.isInfinite then if y.isInfinite then noValue else infinity sign
  else if y.isInfinite then zero sign
  else if y.isZero then if x.isZero then noValue else infinity sign
  else
    let (a, b) := x.ratio
    let (c, d) := y.ratio
    ofRatio sign (a * d) (b * c)

/-- The same value with more bits; what is no number becomes a quiet one. -/
def ofBinary32 (x : Binary32) : Binary64 :=
  let negative : Bool := x.bits.toNat ≥ 1 <<< 31
  let field := (x.bits.toNat >>> 23) % 256
  let fraction := x.bits.toNat % (1 <<< 23)
  if field = 255 then
    if fraction = 0 then infinity negative
    else (ofMagnitude negative (0x7FF <<< 52 + fraction <<< 29)).quiet
  else if field = 0 then ofRatio negative fraction (1 <<< 149)
  else ofRatio negative ((1 <<< 23 + fraction) <<< (field - 150)) (1 <<< (150 - field))

end Binary64

end Introspect
