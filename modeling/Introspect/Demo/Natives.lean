import Introspect.Native.Failure
import Introspect.Native.Wrappers
import Introspect.Number.Signed32
import Introspect.Text.Case

/-!
# The demonstration library

What the functions of a small native library do, as far as they need no callback: arithmetic, text,
arrays, counters and two enumerations. Text comes in as native code sees it, up to its first NUL.
-/

namespace Introspect.Demo

/-- A text of the host as native code sees it. -/
def received (s : String) : String := Memory.visibleText (Text.Utf8.encode s.toList)

/-- The text with all its letters as capitals. -/
def shout (s : String) : String := Text.upper (received s)

/-- The text of `demo_greeting`. -/
def greeting : String := "hello from demo"

/-- The domain of the errors of `parseInt`. -/
def parseErrorDomain : UInt32 := 17

/-- The integer in a text, white space around it aside. -/
def parseInt (s : String) : Except NativeError Int32 :=
  let input := received s
  (Signed32.parse (Text.trim input)).mapError fun fault =>
    { domain := parseErrorDomain, code := 1, message := s!"{Text.quoted input}: {fault.message}" }

/-- The sum of an array; it wraps. -/
def sum (values : List Int32) : Int32 := values.foldl (· + ·) 0

/-- The words of a text: its longest stretches without white space; `word` is the one being read. -/
def wordsFrom (word : List Char) : List Char → List (List Char)
  | [] => if word.isEmpty then [] else [word]
  | c :: rest =>
      if Text.isBlank c then
        if word.isEmpty then wordsFrom [] rest else word :: wordsFrom [] rest
      else wordsFrom (word ++ [c]) rest

/-- The words of a text. -/
def splitWords (s : String) : List String := (wordsFrom [] (received s).toList).map String.ofList

/-- The next number; it wraps. -/
def bump (value : Int32) : Int32 := value + 1

/-- The numbers from `i` on that a visitor is shown, `left` at most; it is shown no more after it
has declined one. -/
def visitedFrom (goesOn : Int32 → Bool) (i : Nat) : Nat → List Int32
  | 0 => []
  | left + 1 =>
      let v := Int32.ofNat i
      v :: if goesOn v then visitedFrom goesOn (i + 1) left else []

/-! ### Counters -/

/-- A counter; a labelled one is of a type of its own. -/
structure Counter where
  value : Int32 := 0
  label : Option String := none
deriving Repr, DecidableEq, Inhabited

/-- The runtime type of counters. -/
def counterType : TypeId := ⟨0x1000⟩

/-- The runtime type of labeled counters, which is derived from that of counters. -/
def labeledCounterType : TypeId := ⟨0x1010⟩

namespace Counter

/-- A counter with a label, as it arrives in native code. -/
def labeled (label : String) : Counter := { label := some (received label) }

/-- The runtime type; a label makes the difference. -/
def type (c : Counter) : TypeId := if c.label.isSome then labeledCounterType else counterType

/-- Adds to the counter; it wraps. -/
def increment (c : Counter) (by' : Int32) : Counter := { c with value := c.value + by' }

/-- A counter of the plain type, a hundred ahead. -/
def replacement (c : Counter) : Counter := { value := c.value + 100 }

/-- The label, empty when there is none. -/
def labelText (c : Counter) : String := c.label.getD ""

end Counter

/-- The counter that is handed out as one of either type. -/
def makeCounter (withLabel : Bool) : Counter := if withLabel then .labeled "made" else {}

/-! ### Enumerations -/

/-- An enumeration. -/
structure Mood where
  bits : Int32
deriving Repr, DecidableEq

namespace Mood

/-- The first member. -/
def calm : Mood := ⟨0⟩

/-- The second member. -/
def restless : Mood := ⟨1⟩

/-- The third member. -/
def angry : Mood := ⟨2⟩

/-- The mood at a level of noise. -/
def of (level : Int32) : Mood := if level ≤ 0 then calm else if level ≤ 4 then restless else angry

end Mood

/-- A set of flags. -/
structure Access where
  bits : UInt32
deriving Repr, DecidableEq

namespace Access

/-- The first flag. -/
def read : Access := ⟨1⟩

/-- The second flag. -/
def write : Access := ⟨2⟩

/-- The flags of both sets. -/
def union (a b : Access) : Access := ⟨a.bits ||| b.bits⟩

/-- Whether all flags of the second set are in the first. -/
def contains (a b : Access) : Bool := a.bits &&& b.bits = b.bits

/-- What native code makes of the set. -/
def canWrite (a : Access) : Bool := a.bits &&& 2 ≠ 0

end Access

/-- The integer constant of the namespace. -/
def answer : Int := 42

/-- The text constant of the namespace. -/
def title : String := "demo"

end Introspect.Demo
