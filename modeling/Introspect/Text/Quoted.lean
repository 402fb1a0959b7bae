import Introspect.Text.Classes

/-!
# Quoted text

A text shown between double quotes, so that each character can be told apart on a terminal: the
quote, the backslash and four controls have short escapes, what has no glyph of its own is written
by its code point, and all else stands as it is.
-/

namespace Introspect.Text

/-- The digit of a number below sixteen, in lower case. -/
def hexDigit (n : Nat) : Char :=
  if n < 10 then Char.ofNat (48 + n) else Char.ofNat (87 + n)

/-- The last `width` hexadecimal digits of `n`. -/
def hexFixed : Nat → Nat → List Char
  | 0, _ => []
  | width + 1, n => hexFixed width (n / 16) ++ [hexDigit (n % 16)]

/-- A number in hexadecimal digits, without leading zeros. -/
def hex (n : Nat) : List Char :=
  match (hexFixed 16 n).dropWhile (· == '0') with
  | [] => ['0']
  | ds => ds

/-- A character as it stands between the quotes. -/
def quotedChar (c : Char) : List Char :=
  if c = '"' then ['\\', '"']
  else if c = '\\' then ['\\', '\\']
  else if c = '\n' then ['\\', 'n']
  else if c = '\r' then ['\\', 'r']
  else if c = '\t' then ['\\', 't']
  else if c = '\x00' then ['\\', '0']
  else if isShown c then [c]
  else ['\\', 'u', '\x7b'] ++ hex c.toNat ++ ['\x7d']

/-- A text between quotation marks, with escapes for what cannot stand there. -/
def quoted (s : String) : String :=
  String.ofList ('"' :: s.toList.flatMap quotedChar ++ ['"'])

end Introspect.Text
