import Introspect.Native.Invoker

/-!
# Sample natives

A small native library to make calls with: identities of every width, arithmetic that wraps,
functions with results in their arguments, one that makes a text and one that can fail. Each
function has an address of its own.
-/

namespace Introspect.Sample

/-- Argument `i`, or zero. -/
def argument (words : List UInt64) (i : Nat) : UInt64 := words.getD i 0

/-- A value that is passed, as a number of 32 bits. -/
def argument32 (words : List UInt64) (i : Nat) : Int32 := (argument words i).toUInt32.toInt32

/-- A number of 32 bits, as it is given back. -/
def word32 (v : Int32) : UInt64 := v.toUInt32.toUInt64

/-- The first argument. -/
def same : NativeFunction := fun words m => (argument words 0, m)

/-- Gives nothing back. -/
def nothing : NativeFunction := fun _ m => (0, m)

/-- Gives the same word back every time. -/
def constant (n : UInt64) : NativeFunction := fun _ m => (n, m)

/-- Adds two numbers; the sum wraps. -/
def add : NativeFunction := fun words m => (word32 (argument32 words 0 + argument32 words 1), m)

/-- The product of a 64-bit and a 32-bit floating-point number. -/
def scale : NativeFunction := fun words m =>
  let v : Binary64 := ⟨argument words 0⟩
  let factor := Binary64.ofBinary32 ⟨(argument words 1).toUInt32⟩
  ((v.mul factor).bits, m)

/-- The carriers of the arguments of `mix`. -/
def mixed : List Carrier := [.i8, .u8, .i16, .u16, .i32, .u32, .i64, .u64, .i32, .i32]

/-- The sum of the arguments, each times its position counted from one. -/
def mix : NativeFunction := fun words m =>
  let terms := (mixed.zip words).zipIdx.map fun ((c, w), i) => UInt64.ofNat (i + 1) * c.widen w
  (terms.foldl (· + ·) 0, m)

/-- Quotient and remainder through the third and the fourth argument, and whether there are any. -/
def divide : NativeFunction := fun words m =>
  let a := argument32 words 0
  let b := argument32 words 1
  if b = 0 then (0, m)
  else (1, (m.store (argument words 2) 4 (word32 (a / b))).store (argument words 3) 4
    (word32 (a % b)))

/-- Adds one to a 16-bit number in memory. -/
def bump : NativeFunction := fun words m =>
  let a := argument words 0
  (0, m.store a 2 (m.load a 0 2 + 1))

/-- A small letter as a capital; other bytes as they are. -/
def upperByte (b : UInt8) : UInt8 := if 97 ≤ b ∧ b ≤ 122 then b - 32 else b

/-- A new text: the argument with its ASCII letters as capitals. -/
def upper : NativeFunction := fun words m =>
  let a := argument words 0
  if a = 0 then (0, m)
  else m.putBytes ((Memory.visible ((m.block? a).getD [])).map upperByte)

/-- Twice the argument; a negative one is reported as an error. -/
def checked : NativeFunction := fun words m =>
  let v := argument32 words 0
  if v < 0 then
    let (message, m) := m.putText "negative"
    let (error, m) := m.putError 9 v message
    (word32 (-1), m.store (argument words 1) 8 error)
  else (word32 (v * 2), m)

/-- Returns the instance, and through the third argument the instance plus the second. -/
def advance : NativeFunction := fun words m =>
  let this := argument words 0
  (this, m.store (argument words 2) 8 (this + argument words 1))

/-- All functions, by their symbols. -/
def functions : List (String × NativeFunction) :=
  ["i8", "u8", "i16", "u16", "i32", "u32", "i64", "u64", "f32", "f64", "usize"].map
      (fun t => ("id_" ++ t, same)) ++
    [("nothing", nothing), ("add_i32", add), ("scale", scale), ("mix", mix), ("divmod", divide),
      ("bump_i16", bump), ("upper", upper), ("checked", checked), ("method", advance),
      ("gtype_0", constant 0), ("gtype_100", constant 100), ("gtype_200", constant 200)]

/-- Where function `i` lies. -/
def addressOf (i : Nat) : Address := UInt64.ofNat (16 * (i + 1))

/-- The address of a function. -/
def address? (name : String) : Option Address :=
  (findIndexed? (·.1 = name) functions).map fun (i, _) => addressOf i

/-- The function at an address. -/
def at? (a : Address) : Option NativeFunction :=
  (findIndexed? (fun (i, _) => addressOf i = a)
    (functions.zipIdx.map fun ((_, f), i) => (i, f))).map fun (_, (_, f)) => f

/-- The type a function at an address answers when asked for one. -/
def typeAt (a : Address) : TypeId :=
  match at? a with
  | some f => ⟨(f [] {}).1⟩
  | none => {}

end Introspect.Sample
