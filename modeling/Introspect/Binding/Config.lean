import Introspect.Json.Fields
import Introspect.Json.Printer
import Introspect.Json.Reading

/-!
# Settings of a run

What a namespace's own settings file may say, and the counters that one run hands to the next so
that namespaces bound into one program never share an id. Both are JSON records in which every field
has a default.
-/

namespace Introspect

open Json (Fields)

/-- The settings of one namespace. Every field may be missing. -/
structure Config where
  /-- Functions to leave out, as `name` or `Container.name`. -/
  black : List String := []
  /-- Callbacks whose handler is written by hand. -/
  manualCallbacks : List String := []
  /-- Types that get no `get_type` function. -/
  noGetType : List String := []
  /-- Other namespaces, as `Name-Version`. -/
  deps : List String := []
  /-- Containers whose methods are not to be asked for by name. -/
  noCallFind : List String := []
deriving Repr, DecidableEq

namespace Config

/-- Whether the function is left out. -/
def isBlack (c : Config) (name : String) : Bool := c.black.contains name

/-- Whether the trampoline of the callback is written by hand. -/
def isManualCallback (c : Config) (name : String) : Bool := c.manualCallbacks.contains name

/-- Whether the type gets no `get_type` function. -/
def skipsGetType (c : Config) (name : String) : Bool := c.noGetType.contains name

/-- Whether methods of the container are not asked for by name. -/
def skipsCallFind (c : Config) (container : String) : Bool := c.noCallFind.contains container

/-- The first dependency on a namespace: its name, a dash and a version. -/
def depFor? (c : Config) (ns : String) : Option String :=
  c.deps.find? fun dep => (ns.toList ++ ['-']).isPrefixOf dep.toList

/-- The document with every field in it. -/
def toJson (c : Config) : Json :=
  let names (xs : List String) : Json := .list (xs.map .text)
  .object [("black", names c.black), ("manualCallbacks", names c.manualCallbacks),
    ("noGetType", names c.noGetType), ("deps", names c.deps), ("noCallFind", names c.noCallFind)]

/-- The names of the fields, in the order they are declared. -/
def fieldNames : List String := ["black", "manualCallbacks", "noGetType", "deps", "noCallFind"]

/-- A list of names. -/
def names? (j : Json) : Option (List String) := j.list?.bind fun xs => xs.mapM Json.text?

/-- The settings that the fields give; a missing one has its default. -/
def ofFields? (fs : Fields) : Option Config := do
  return {
    black := ← fs.default "black" [] names?
    manualCallbacks := ← fs.default "manualCallbacks" [] names?
    noGetType := ← fs.default "noGetType" [] names?
    deps := ← fs.default "deps" [] names?
    noCallFind := ← fs.default "noCallFind" [] names? }

/-- The settings a document gives; unknown members are skipped. -/
def ofJson? (j : Json) : Option Config := (j.fields? fieldNames).bind ofFields?

/-- What is accepted where settings are expected. -/
def reader : Json.Reader :=
  .record (fieldNames.map fun name => (name, .list .text)) fun fs => (ofFields? fs).isSome

/-- Reads settings from a text. -/
def ofText (text : String) : Json.Reading Config := do
  match ofJson? (← Json.read reader text) with
  | some c => .ok c
  | none => .error .mismatched

end Config

/-- The counters a run leaves behind, and the namespace it was for. -/
structure Progress where
  namespaceName : String := ""
  nextFunction : UInt32 := 0
  nextGetType : UInt32 := 0
deriving Repr, DecidableEq

namespace Progress

/-- The document that a later run goes on from. -/
def toJson (p : Progress) : Json :=
  .object [("prevNamespace", .text p.namespaceName), ("funcNextId", .nat p.nextFunction.toNat),
    ("getTypeNextId", .nat p.nextGetType.toNat)]

/-- The names of the fields, in the order they are declared. -/
def fieldNames : List String := ["prevNamespace", "funcNextId", "getTypeNextId"]

/-- The greatest counter. -/
def counterMax : Nat := UInt32.size - 1

/-- A counter: a natural number that fits into its word. -/
def counter? (j : Json) : Option UInt32 := (j.natUpTo? counterMax).map UInt32.ofNat

/-- The progress that the fields give; a missing one is that before any run. -/
def ofFields? (fs : Fields) : Option Progress := do
  return {
    namespaceName := ← fs.default "prevNamespace" "" Json.text?
    nextFunction := ← fs.default "funcNextId" 0 counter?
    nextGetType := ← fs.default "getTypeNextId" 0 counter? }

/-- The progress a document gives; unknown members are skipped. -/
def ofJson? (j : Json) : Option Progress := (j.fields? fieldNames).bind ofFields?

/-- What is accepted where the progress is expected. -/
def reader : Json.Reader :=
  .record
    [("prevNamespace", .text), ("funcNextId", .natUpTo counterMax),
      ("getTypeNextId", .natUpTo counterMax)]
    fun fs => (ofFields? fs).isSome

/-- Reads the progress from a text. -/
def ofText (text : String) : Json.Reading Progress := do
  match ofJson? (← Json.read reader text) with
  | some p => .ok p
  | none => .error .mismatched

/-- The text that is written to the file of the counters. -/
def render (p : Progress) : String := p.toJson.pretty

end Progress

end Introspect
