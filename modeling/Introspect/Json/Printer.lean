import Introspect.Json.Basic
import Introspect.Number.Decimal
import Introspect.Text.Quoted

/-!
# JSON text

Two layouts of the same value: `compact` has no blanks at all, and `pretty` puts each part of a list
or object on a line of its own, two columns further in than the bracket. An empty container stays on
its line in both.
-/

namespace Introspect.Json

/-- A character as it stands in a JSON text. Only what must be escaped is. -/
def escaped (c : Char) : List Char :=
  if c = '"' then ['\\', '"']
  else if c = '\\' then ['\\', '\\']
  else if c = '\n' then ['\\', 'n']
  else if c = '\r' then ['\\', 'r']
  else if c = '\t' then ['\\', 't']
  else if c = '\x08' then ['\\', 'b']
  else if c = '\x0c' then ['\\', 'f']
  else if c.toNat < 0x20 then ['\\', 'u'] ++ Text.hexFixed 4 c.toNat
  else [c]

/-- A text in quotes. -/
def textLiteral (s : String) : String :=
  String.ofList ('"' :: s.toList.flatMap escaped ++ ['"'])

/-- Numbers have the fewest digits that read back, and an exponent below `1e-5` and from `1e16`. -/
def numberStyle : Decimal.Style := ⟨.even, -5, 15, true⟩

/-- A number; what is not finite has no JSON text and is written as null. -/
def Number.text : Number → String
  | .int i => toString i
  | .float x => if x.isNaN || x.isInfinite then "null" else x.text numberStyle

mutual

/-- The document on one line, without blanks. -/
def compact : Json → String
  | .null => "null"
  | .bool b => if b then "true" else "false"
  | .number n => n.text
  | .text s => textLiteral s
  | .list xs => "[" ++ ",".intercalate (compactItems xs) ++ "]"
  | .object ms => "\x7b" ++ ",".intercalate (compactMembers ms) ++ "\x7d"

/-- The items, one by one. -/
def compactItems : List Json → List String
  | [] => []
  | x :: rest => x.compact :: compactItems rest

/-- The members, one by one. -/
def compactMembers : List (String × Json) → List String
  | [] => []
  | (key, x) :: rest => (textLiteral key ++ ":" ++ x.compact) :: compactMembers rest

end

/-- A line break and `level` steps of two columns. -/
def lineBreak (level : Nat) : String := "\n" ++ String.ofList (List.replicate (2 * level) ' ')

/-- Brackets around parts that have lines of their own. -/
def spread (level : Nat) (left right : String) : List String → String
  | [] => left ++ right
  | parts =>
      left ++ lineBreak (level + 1) ++ ("," ++ lineBreak (level + 1)).intercalate parts ++
        lineBreak level ++ right

mutual

/-- The value with `level` containers around it. -/
def prettyAt (level : Nat) : Json → String
  | .list xs => spread level "[" "]" (prettyItems (level + 1) xs)
  | .object ms => spread level "\x7b" "\x7d" (prettyMembers (level + 1) ms)
  | j => j.compact

/-- The items, under `level` brackets. -/
def prettyItems (level : Nat) : List Json → List String
  | [] => []
  | x :: rest => x.prettyAt level :: prettyItems level rest

/-- The members, under `level` brackets. -/
def prettyMembers (level : Nat) : List (String × Json) → List String
  | [] => []
  | (key, x) :: rest => (textLiteral key ++ ": " ++ x.prettyAt level) :: prettyMembers level rest

end

/-- The document with a line for each value. -/
def pretty (j : Json) : String := j.prettyAt 0

end Introspect.Json
