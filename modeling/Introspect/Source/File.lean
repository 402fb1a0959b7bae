import Introspect.Source.Block

/-!
# Source files

A file is a header, the sorted imports of all its blocks, and the blocks that are not empty.
-/

namespace Introspect.Source

/-- The first line of every file. -/
def header : String := "// Code generated by girgen. DO NOT EDIT."

/-- A file of generated source. -/
structure File where
  imports : List String := []
  blocks : List Block := []
deriving Repr, DecidableEq

namespace File

/-- Adds one path to the imports. -/
def addImport (f : File) (path : String) : File :=
  { f with imports := insertSorted path f.imports }

/-- Appends a block and takes over its imports. -/
def push (f : File) (b : Block) : File :=
  { imports := b.imports.foldl (fun s path => insertSorted path s) f.imports
    blocks := if b.isEmpty then f.blocks else f.blocks ++ [b] }

/-- The lines of a file, each to be ended by a line break. -/
def lines (f : File) : List String :=
  [header, ""] ++ f.imports.map (fun path => "use " ++ path ++ ";") ++
    f.blocks.flatMap fun b => "" :: b.lines

/-- The text of the file. -/
def render (f : File) : String := String.join (f.lines.map (· ++ "\n"))

end File

end Introspect.Source
