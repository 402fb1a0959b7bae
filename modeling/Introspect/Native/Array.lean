import Introspect.Native.Memory
import Introspect.Number.Word

/-!
# Native arrays

A view of elements in native memory: where they lie, and how many of them the view takes. The two
are independent, because native code reports a length apart from the array, or marks its end by an
element whose bytes are all zero. `scan?` looks for that mark and `copy?` takes the elements; either
is `none` where it would leave the memory the array has.

Memory is asked for by its bytes. An allocator may refuse, and then there is a null pointer in place
of what was to be made. The bytes are counted in words, and what becomes of a number that no word
holds depends on how the code was built.
-/

namespace Introspect

open Text.Utf8 (Bytes)

/-- The requests that are granted, by the bytes they ask for. -/
abbrev Allocator := UInt64 → Bool

/-- Refuses what is above a limit. -/
def Allocator.upTo (limit : UInt64) : Allocator := fun bytes => bytes ≤ limit

/-- Values that lie side by side in an array; `zero` is the one whose bytes are all zero. -/
class ArrayElement (α : Type) where
  zero : α

instance : ArrayElement UInt64 := ⟨0⟩

/-- Truth values as native code has them. -/
instance : ArrayElement Int32 := ⟨0⟩

/-- A pointer to text: the bytes up to and with the NUL, or null. -/
abbrev TextPointer := Option Bytes

instance : ArrayElement TextPointer := ⟨none⟩

/-- A view of elements in native memory. -/
structure NativeArray (α : Type) where
  /-- The elements from the start of the array on, as far as its memory goes; missing for null. -/
  memory : Option (List α) := none
  /-- The number of elements the view takes. -/
  length : UInt64 := 0
deriving Repr, DecidableEq

namespace NativeArray

variable {α : Type}

/-- The bytes asked for when elements take this many; some are asked for even when they take
none. -/
def requestFor (bytes : UInt64) : UInt64 := max bytes 1

/-- The bytes asked for when room for `count` elements is made and the product of words wraps. -/
def requestedBytes (size count : UInt64) : UInt64 := requestFor (size * count)

/-- Requests above this many bytes are refused. -/
def largestRequest : UInt64 := 0x80000000

/-- The number of elements that fit into memory. Elements without bytes take no room. -/
def capacity (size count request : UInt64) : Nat :=
  if size = 0 then count.toNat else (request / size).toNat

/-- An array of zeros in memory of so many bytes, as many as fit, or none where it is refused. -/
def zeroed [ArrayElement α] (size count request : UInt64) (grants : Allocator) : NativeArray α :=
  { memory :=
      if grants request then
        some (List.replicate (capacity size count request) ArrayElement.zero)
      else none
    length := count }

/-- An array of zeros, or `none` where the product of size and count stops the computation. -/
def make [ArrayElement α] (arithmetic : Arithmetic) (size count : UInt64)
    (grants : Allocator := .upTo largestRequest) : Option (NativeArray α) :=
  (arithmetic.word? (size.toNat * count.toNat)).map fun bytes =>
    zeroed size count (requestFor bytes) grants

/-- The same array, its first elements overwritten. -/
def fill (a : NativeArray α) (values : List α) : NativeArray α :=
  { a with memory := a.memory.map fun xs => values ++ xs.drop values.length }

/-- A native copy of values. -/
def ofList [ArrayElement α] (arithmetic : Arithmetic) (size : UInt64) (values : List α)
    (grants : Allocator := .upTo largestRequest) : Option (NativeArray α) :=
  (make arithmetic size (UInt64.ofNat values.length) grants).map (·.fill values)

/-- A native copy of values, followed by a zero that its length does not count. -/
def ofListTerminated [ArrayElement α] (arithmetic : Arithmetic) (size : UInt64) (values : List α)
    (grants : Allocator := .upTo largestRequest) : Option (NativeArray α) := do
  let count ← arithmetic.word? (values.length + 1)
  let a ← make arithmetic size count grants
  return { a.fill values with length := UInt64.ofNat values.length }

/-- Whether there is no memory. -/
def isNull (a : NativeArray α) : Bool := a.memory.isNone

/-- Takes a length from a length argument; a negative one means no elements. -/
def setLength (a : NativeArray α) (n : Int64) : NativeArray α :=
  { a with length := if n < 0 then 0 else n.toUInt64 }

/-- The number of elements before the first that is all zero, or `none` if the memory ends first. -/
def leading? [ArrayElement α] [DecidableEq α] : List α → Option Nat
  | [] => none
  | x :: rest => if x = ArrayElement.zero then some 0 else (leading? rest).map (· + 1)

/-- Takes as length the number of elements before the mark. -/
def scan? [ArrayElement α] [DecidableEq α] (a : NativeArray α) : Option (NativeArray α) :=
  match a.memory with
  | none => some { a with length := 0 }
  | some xs => (leading? xs).map fun n => { a with length := UInt64.ofNat n }

/-- The elements of the view; a null array has none. -/
def copy? (a : NativeArray α) : Option (List α) :=
  match a.memory with
  | none => some []
  | some xs => if a.length.toNat ≤ xs.length then some (xs.take a.length.toNat) else none

/-- Truth values as native code has them. -/
def ofBools (arithmetic : Arithmetic) (values : List Bool)
    (grants : Allocator := .upTo largestRequest) : Option (NativeArray Int32) :=
  ofList arithmetic 4 (values.map truth) grants

/-- The elements as truth values: what is not zero is true. -/
def copyBools? (a : NativeArray Int32) : Option (List Bool) :=
  a.copy?.map fun xs => xs.map fun x => decide (x ≠ 0)

/-! ### Arrays of text -/

/-- The bytes asked for when a text is put into memory: its own and a NUL. -/
def textRequest (s : String) : UInt64 := UInt64.ofNat ((Text.Utf8.encode s.toList).length + 1)

/-- A native copy of a text, or null where it is refused. -/
def textPointer (s : String) (grants : Allocator := .upTo largestRequest) : TextPointer :=
  if grants (textRequest s) then some (Text.Utf8.encode s.toList ++ [0]) else none

/-- The text behind a pointer; null stands for the empty text. -/
def textBehind (p : TextPointer) : String := Memory.visibleText (p.getD [])

/-- Native copies of texts. -/
def ofTexts (arithmetic : Arithmetic) (values : List String)
    (grants : Allocator := .upTo largestRequest) : Option (NativeArray TextPointer) :=
  ofList arithmetic 8 (values.map (textPointer · grants)) grants

/-- Native copies of texts, followed by a null pointer. -/
def ofTextsTerminated (arithmetic : Arithmetic) (values : List String)
    (grants : Allocator := .upTo largestRequest) : Option (NativeArray TextPointer) :=
  ofListTerminated arithmetic 8 (values.map (textPointer · grants)) grants

/-- The texts behind the elements. -/
def copyTexts? (a : NativeArray TextPointer) : Option (List String) :=
  a.copy?.map fun ps => ps.map textBehind

end NativeArray

end Introspect
