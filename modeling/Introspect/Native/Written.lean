import Introspect.Json.Scan
import Introspect.Native.Slot
import Introspect.Text.Utf8

/-!
# Written cell values

Values of cells in JSON: integers of up to 32 bits as numbers and wider ones as decimal text, since
few readers keep 64 bits of a number; floating-point numbers by their bits in hexadecimal, so that
nothing is rounded; a character as a text of its own; bytes that need not be text by pairs of
digits. Reading is lenient: an integer may stand as a number or as text, and loses the high bits its
cell has no room for.
-/

namespace Introspect

namespace Json

/-- An integer, written as a number or as decimal text; anything else reads as zero. -/
def integer : Json → Int
  | .number (.int i) => i
  | .text s => s.toInt?.getD 0
  | _ => 0

/-- An integer as decimal text. -/
def decimal (i : Int) : Json := .text (toString i)

/-- A bit pattern in hexadecimal, after its mark. -/
def bits (digits n : Nat) : Json := .text ("0x" ++ String.ofList (Text.hexFixed digits n))

/-- The value of hexadecimal digits after their mark; what is no digit counts as zero. -/
def bitsValue : Json → Nat
  | .text s => (s.toList.drop 2).foldl (fun n c => 16 * n + (hexValue c).getD 0) 0
  | _ => 0

/-- Bytes by pairs of hexadecimal digits. -/
def hexBytes : List Char → Text.Utf8.Bytes
  | a :: b :: rest =>
      UInt8.ofNat (16 * (hexValue a).getD 0 + (hexValue b).getD 0) :: hexBytes rest
  | _ => []

/-- Bytes, written as text or by the digits in a member `hex`. -/
def bytes : Json → Text.Utf8.Bytes
  | .text s => Text.Utf8.encode s.toList
  | .object ms => hexBytes (((ms.lookup "hex").bind text?).getD "").toList
  | _ => []

end Json

namespace Cell

/-- The value of a cell that a JSON value stands for. -/
def ofJson : (c : Cell) → Json → c.Host
  | .i8, j => Int8.ofInt j.integer
  | .u8, j => UInt8.ofInt j.integer
  | .i16, j => Int16.ofInt j.integer
  | .u16, j => UInt16.ofInt j.integer
  | .i32, j => Int32.ofInt j.integer
  | .u32, j => UInt32.ofInt j.integer
  | .i64, j => Int64.ofInt j.integer
  | .u64, j | .usize, j | .ptr, j | .handle, j => UInt64.ofInt j.integer
  | .f32, j => ⟨UInt32.ofNat j.bitsValue⟩
  | .f64, j => ⟨UInt64.ofNat j.bitsValue⟩
  | .bool, j => j.bool?.getD false
  | .char, j => ((j.text?.getD "").toList).headD '\x00'
  | .gtype, j => ⟨UInt64.ofInt j.integer⟩

/-- The JSON form of a value. -/
def toJson : (c : Cell) → c.Host → Json
  | .i8, v => .int v.toInt
  | .u8, v => .nat v.toNat
  | .i16, v => .int v.toInt
  | .u16, v => .nat v.toNat
  | .i32, v => .int v.toInt
  | .u32, v => .nat v.toNat
  | .i64, v => .decimal v.toInt
  | .u64, v | .usize, v | .ptr, v | .handle, v => .decimal v.toNat
  | .f32, v => .bits 8 v.bits.toNat
  | .f64, v => .bits 16 v.bits.toNat
  | .bool, v => .bool v
  | .char, v => .text (String.singleton v)
  | .gtype, v => .object [("gtype", .decimal v.number.toNat), ("valid", .bool v.isValid)]

/-- The JSON form of a value among others in an array: any integer as text. -/
def elementJson (c : Cell) (v : c.Host) : Json :=
  match c.toJson v with
  | .number (.int n) => .decimal n
  | j => j

/-- The cells that values are written for by name; an address says nothing to a reader. -/
def written : List Cell := all.filter (· ≠ .ptr)

/-- The cell of a name. -/
def named? (name : String) : Option Cell := written.find? (·.name = name)

end Cell

/-- The slot for a written value; a name that is no cell's gives the slot of zeros. -/
def Slot.ofWritten (cell : String) (value : Json) : Slot :=
  match Cell.named? cell with
  | some c => .of c (c.ofJson value)
  | none => {}

end Introspect
