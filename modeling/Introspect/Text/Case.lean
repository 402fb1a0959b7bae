import Introspect.Text.CaseTable

/-!
# Case changes

A character changes case by the full mappings of Unicode, so that one character may become several.
A whole text is lowered character by character but for the capital sigma: at the end of a word it
takes its final form. A word ends there when a cased character stands before it, none after it, and
only case-ignorable characters lie in between.
-/

namespace Introspect.Text

/-- The first image among the runs, or the character itself. -/
def mapThrough (runs : List CaseRun) (wide : List (Nat × List Nat)) (c : Char) : List Char :=
  match runs.findSome? (·.map? c.toNat) with
  | some n => [Char.ofNat n]
  | none =>
      match wide.lookup c.toNat with
      | some ns => ns.map Char.ofNat
      | none => [c]

/-- The capital of a character, which may be several characters. -/
def upperChar (c : Char) : List Char := mapThrough upperRuns upperWide c

/-- The lower-case form of a character that stands alone. -/
def lowerChar (c : Char) : List Char := mapThrough lowerRuns lowerWide c

/-- Whether it is a capital. -/
def isUpper (c : Char) : Bool := inside upperBounds c.toNat

/-- Whether the first character that is not case-ignorable is cased. -/
def meetsCased (cs : List Char) : Bool :=
  match cs.dropWhile fun c => inside caseIgnorableBounds c.toNat with
  | [] => false
  | c :: _ => inside casedBounds c.toNat

/-- The lower-case form of `c` between the characters before it, nearest first, and those after. -/
def lowerBetween (before : List Char) (c : Char) (after : List Char) : List Char :=
  if c = 'Σ' then
    if meetsCased before && !meetsCased after then ['ς'] else ['σ']
  else lowerChar c

/-- Lowers a text whose preceding characters, nearest first, are given. -/
def lowerFrom (before : List Char) : List Char → List Char
  | [] => []
  | c :: rest => lowerBetween before c rest ++ lowerFrom (c :: before) rest

/-- A text in small letters. -/
def lower (s : String) : String := String.ofList (lowerFrom [] s.toList)

/-- A text in capitals. -/
def upper (s : String) : String := String.ofList (s.toList.flatMap upperChar)

end Introspect.Text
