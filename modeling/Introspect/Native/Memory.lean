import Introspect.Native.Slot
import Introspect.Text.Utf8

/-!
# Native memory

The live blocks of native memory, each under the address it starts at, and a ledger of what has been
asked of the allocator. An address that no block starts at reads as zeros and takes no writes; a
program that keeps the ownership rules never uses one.

Text in native memory ends at its first NUL. Putting a text there takes one request of its length in
bytes and one more; copying it back asks nothing, and taking it back releases it once.
-/

namespace Introspect

open Text.Utf8 (Bytes)

/-- The number with these bytes, the lowest first. -/
def wordOfBytes : Bytes → Nat
  | [] => 0
  | b :: rest => b.toNat + 256 * wordOfBytes rest

/-- The `width` low bytes of a number, the lowest first. -/
def bytesOfWord : Nat → Nat → Bytes
  | 0, _ => []
  | width + 1, n => UInt8.ofNat n :: bytesOfWord width (n / 256)

/-- What has been asked of the allocator. -/
structure Ledger where
  allocations : Nat := 0
  /-- The bytes asked for, over all allocations. -/
  requested : Nat := 0
  /-- The calls that release; one of them may be given the null pointer. -/
  releases : Nat := 0
deriving Repr, DecidableEq, Inhabited

/-- The blocks that lie in native memory. -/
structure Memory where
  blocks : List (Address × Bytes) := []
  /-- The first address no block has been placed at. -/
  next : Address := 4096
  ledger : Ledger := {}
deriving Repr, DecidableEq, Inhabited

namespace Memory

/-- The bytes of the block that starts at an address. -/
def block? (m : Memory) (a : Address) : Option Bytes := m.blocks.lookup a

/-- Sets room aside: the address of the first byte, and the memory in which later blocks lie
above. -/
def reserve (m : Memory) (size : Nat) : Address × Memory :=
  (m.next, { m with next := m.next + 16 * UInt64.ofNat (size / 16 + 1) })

/-- A block with these bytes, which is counted. -/
def allocate (m : Memory) (bytes : Bytes) : Address × Memory :=
  let (a, m) := m.reserve bytes.length
  let ledger := { m.ledger with
    allocations := m.ledger.allocations + 1
    requested := m.ledger.requested + bytes.length }
  (a, { m with blocks := (a, bytes) :: m.blocks, ledger })

/-- Gives a block back; the null pointer is no block. -/
def release (m : Memory) (a : Address) : Memory :=
  { m with
    blocks := m.blocks.filter (·.1 ≠ a)
    ledger := { m.ledger with releases := m.ledger.releases + 1 } }

/-- The number in `width` bytes of a block, from an offset on. -/
def load (m : Memory) (a : Address) (offset width : Nat) : UInt64 :=
  UInt64.ofNat (wordOfBytes ((((m.block? a).getD []).drop offset).take width))

/-- Overwrites the first `width` bytes of a block. -/
def store (m : Memory) (a : Address) (width : Nat) (v : UInt64) : Memory :=
  { m with
    blocks := m.blocks.map fun (b, bytes) =>
      (b, if b = a then bytesOfWord width v.toNat ++ bytes.drop width else bytes) }

/-! ### Slots in memory -/

/-- The address of slot `k` of a block of slots. -/
def slotAddress (base : Address) (k : Nat) : Address := base + 8 * UInt64.ofNat k

/-- Places a block of slots that the caller keeps: no allocation. -/
def placeSlots (m : Memory) (slots : List Slot) : Address × Memory :=
  let (base, m) := m.reserve (8 * slots.length)
  let placed := slots.zipIdx.map fun (s, k) => (slotAddress base k, bytesOfWord 8 s.bits.toNat)
  (base, { m with blocks := placed ++ m.blocks })

/-- The slot of a block that starts at `base`. -/
def slotAt (m : Memory) (base : Address) (k : Nat) : Slot := ⟨m.load (slotAddress base k) 0 8⟩

/-! ### Text in memory -/

/-- The bytes before the first NUL. -/
def visible (bytes : Bytes) : Bytes := bytes.takeWhile (· ≠ 0)

/-- The text that native code sees in these bytes. -/
def visibleText (bytes : Bytes) : String := String.ofList (Text.Utf8.decode (visible bytes))

/-- Puts bytes in memory with a NUL after them. -/
def putBytes (m : Memory) (bytes : Bytes) : Address × Memory := m.allocate (bytes ++ [0])

/-- A text, with the mark of its end behind it. -/
def putText (m : Memory) (s : String) : Address × Memory := m.putBytes (Text.Utf8.encode s.toList)

/-- A text that may be missing; a missing one is the null pointer and takes no block. -/
def putText? (m : Memory) : Option String → Address × Memory
  | none => (0, m)
  | some s => m.putText s

/-- The text at an address, left where it is; the null pointer stands for the empty text. -/
def textAt (m : Memory) (a : Address) : String :=
  if a = 0 then "" else visibleText ((m.block? a).getD [])

/-- The text at an address; there is none at the null pointer. -/
def textAt? (m : Memory) (a : Address) : Option String :=
  if a = 0 then none else some (m.textAt a)

/-- The text at an address, which is given back. -/
def takeText (m : Memory) (a : Address) : String × Memory := (m.textAt a, m.release a)

/-- The text at an address that may be null; then nothing is given back. -/
def takeText? (m : Memory) (a : Address) : Option String × Memory :=
  if a = 0 then (none, m) else (some (m.textAt a), m.release a)

end Memory

end Introspect
