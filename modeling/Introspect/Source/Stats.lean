import Introspect.Number.Decimal
import Introspect.Source.Block

/-!
# Completeness

How many functions were generated, and how many of them left something undone.
-/

namespace Introspect.Source

/-- How many functions were generated, and how many of them are unfinished. -/
structure Stats where
  functions : Nat := 0
  unfinished : Nat := 0
deriving Repr, DecidableEq

namespace Stats

/-- Counts one generated function. -/
def record (s : Stats) (b : Block) : Stats :=
  { functions := s.functions + 1
    unfinished := if b.containsTodo then s.unfinished + 1 else s.unfinished }

/-- The share of unfinished functions, zero when there are none at all. -/
def ratio (s : Stats) : Binary64 :=
  if s.functions = 0 then .zero false
  else (Binary64.ofNat s.unfinished).div (.ofNat s.functions)

/-- The line that a run reports. -/
def text (s : Stats) : String :=
  "todo/all functions: " ++ toString s.unfinished ++ "/" ++ toString s.functions ++ " (" ++
    (s.ratio.mul (.ofNat 100)).fixed 1 ++ "%)"

end Stats

end Introspect.Source
