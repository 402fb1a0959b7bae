import Introspect.Source.Directive

/-!
# Blocks of source

A block is what is generated for one item: lines, each indented by the groups it stands in, and the
paths its directives ask to import. It is made of steps: a plain line, a line that opens a group and
a line that closes one.
-/

namespace Introspect.Source

/-- What a block is made of. -/
inductive Step
  | line (text : String)
  | opening (text : String)
  | closing (text : String)
deriving Repr, DecidableEq

/-- Puts a text into its place in a sorted list without repetition. -/
def insertSorted (x : String) : List String → List String
  | [] => [x]
  | y :: rest =>
      if x < y then x :: y :: rest
      else if x = y then y :: rest
      else y :: insertSorted x rest

/-- The lines of one item, and what they ask to import. -/
structure Block where
  lines : List String := []
  /-- Sorted, without repetition. -/
  imports : List String := []
  indent : Nat := 0
deriving Repr, DecidableEq

/-- A line under `indent` groups; an empty line stays empty. -/
def indented (indent : Nat) (line : String) : String :=
  if line.isEmpty then line else String.ofList (List.replicate (4 * indent) ' ') ++ line

namespace Block

/-- Appends a line: its directives are taken out, and the paths in them are kept. -/
def line (b : Block) (text : String) : Block :=
  { b with
    lines := b.lines ++ [indented b.indent (strip text)]
    imports := (uses text).foldl (fun s path => insertSorted path s) b.imports }

/-- Appends a step; what it closes is closed before its line, what it opens is opened behind it. -/
def apply (b : Block) : Step → Block
  | .line text => b.line text
  | .opening text => { b.line text with indent := b.indent + 1 }
  | .closing text => { b with indent := b.indent - 1 }.line text

/-- The block made of these steps. -/
def ofSteps (steps : List Step) : Block := steps.foldl apply {}

/-- Whether it has no line. -/
def isEmpty (b : Block) : Bool := b.lines.isEmpty

end Block

/-- Whether the characters `sub` stand somewhere in a text. -/
def occursIn (sub : List Char) : List Char → Bool
  | [] => sub.isEmpty
  | c :: rest => sub.isPrefixOf (c :: rest) || occursIn sub rest

/-- A line that shows something was left undone: a marker or the placeholder type. -/
def isUnfinished (line : String) : Bool :=
  occursIn "TODO".toList line.toList || occursIn "gi::Todo".toList line.toList

/-- Whether a line shows that something was left undone. -/
def Block.containsTodo (b : Block) : Bool := b.lines.any isUnfinished

end Introspect.Source
