/-!
# UTF-8

Characters to bytes and back. `decode` never fails: a sequence that cannot be completed is replaced
by U+FFFD once, and reading goes on at the first byte that could not belong to it. `decode?` accepts
well-formed bytes only.
-/

namespace Introspect.Text.Utf8

/-- The bytes of a text or a file. -/
abbrev Bytes := List UInt8

/-- The bytes of a character. -/
def encodeChar (c : Char) : Bytes :=
  let n := c.toNat
  let tail (shift : Nat) : UInt8 := UInt8.ofNat (0x80 + n / shift % 64)
  if n < 0x80 then [UInt8.ofNat n]
  else if n < 0x800 then [UInt8.ofNat (0xC0 + n / 64), tail 1]
  else if n < 0x10000 then [UInt8.ofNat (0xE0 + n / 4096), tail 64, tail 1]
  else [UInt8.ofNat (0xF0 + n / 262144), tail 4096, tail 64, tail 1]

/-- The bytes of a text. -/
def encode (cs : List Char) : Bytes := cs.flatMap encodeChar

/-- What a first byte announces: how many bytes follow, the bits it gives, and the range the
second byte must lie in. -/
def lead (b : Nat) : Option (Nat × Nat × Nat × Nat) :=
  if b < 0x80 then some (0, b, 0x80, 0xBF)
  else if b < 0xC2 then none
  else if b < 0xE0 then some (1, b - 0xC0, 0x80, 0xBF)
  else if b = 0xE0 then some (2, 0, 0xA0, 0xBF)
  else if b = 0xED then some (2, 0xD, 0x80, 0x9F)
  else if b < 0xF0 then some (2, b - 0xE0, 0x80, 0xBF)
  else if b = 0xF0 then some (3, 0, 0x90, 0xBF)
  else if b < 0xF4 then some (3, b - 0xF0, 0x80, 0xBF)
  else if b = 0xF4 then some (3, 4, 0x80, 0x8F)
  else none

/-- Where the decoder stands: between characters, or inside one with the bits read so far, the
number of bytes owed and the range of the next. -/
inductive State
  | between
  | within (bits owed low high : Nat)
deriving Repr, DecidableEq

/-- Starts a character at byte `b`: what is put out, and the new state. -/
def start (b : Nat) : List (Option Char) × State :=
  match lead b with
  | none => ([none], .between)
  | some (0, bits, _, _) => ([some (Char.ofNat bits)], .between)
  | some (owed + 1, bits, low, high) => ([], .within bits (owed + 1) low high)

/-- Takes one byte; `none` in the output marks a place where the bytes are not UTF-8. -/
def step (q : State) (b : Nat) : List (Option Char) × State :=
  match q with
  | .between => start b
  | .within bits owed low high =>
      if low ≤ b ∧ b ≤ high then
        let bits' := bits * 64 + b % 64
        if owed = 1 then ([some (Char.ofNat bits')], .between)
        else ([], .within bits' (owed - 1) 0x80 0xBF)
      else
        let (out, q') := start b
        (none :: out, q')

/-- Takes all bytes from a state. -/
def run : State → Bytes → List (Option Char)
  | .between, [] => []
  | .within .., [] => [none]
  | q, b :: rest =>
      let (out, q') := step q b.toNat
      out ++ run q' rest

/-- The characters of the bytes, with U+FFFD where they are not UTF-8. -/
def decode (bs : Bytes) : List Char := (run .between bs).map (·.getD '\uFFFD')

/-- The characters of well-formed bytes. -/
def decode? (bs : Bytes) : Option (List Char) := (run .between bs).mapM id

end Introspect.Text.Utf8
