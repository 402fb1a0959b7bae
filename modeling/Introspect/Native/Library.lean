import Introspect.Native.Failure

/-!
# Libraries

Where native symbols come from: the libraries that are loaded, each with the names it defines, or a
table that maps names to addresses. Which libraries there are and what they define is not known
here; a loader says it.
-/

namespace Introspect

/-- The byte position of the first NUL of a text. -/
def nulPosition? (s : String) : Option Nat :=
  (findIndexed? (· = (0 : UInt8)) (Text.Utf8.encode s.toList)).map fun (i, _) => i

/-- The names that a library defines, with their addresses. -/
abbrev Symbols := String → Option Address

/-- What there is to load. -/
structure Loader where
  /-- The names of the running program and of what it is linked with. -/
  program : Symbols
  /-- The names of the library at a path, if one can be loaded from there. -/
  library? : String → Option Symbols

/-- An open library. -/
structure Library where
  /-- The name it was opened by, or a mark for the running program. -/
  path : String
  symbols : Symbols

namespace Library

/-- The running program and what it is linked with. -/
def self (loader : Loader) : Library := ⟨"<self>", loader.program⟩

/-- The library at a path; with no path, the running program. -/
def open? (loader : Loader) (path : Option String) : Except LoadFailure Library :=
  match path with
  | none => .ok (self loader)
  | some p =>
      match nulPosition? p with
      | some i => .error (.nul "path" i)
      | none =>
          match loader.library? p with
          | some symbols => .ok ⟨p, symbols⟩
          | none => .error (.library p)

/-- The address of a symbol; a null one is none. -/
def resolve (l : Library) (name : String) : Except LoadFailure Address :=
  match nulPosition? name with
  | some i => .error (.nul "symbol name" i)
  | none =>
      match l.symbols name with
      | some a => if a = 0 then .error (.symbol name l.path) else .ok a
      | none => .error (.symbol name l.path)

/-- The library as it is shown in messages. -/
def text (l : Library) : String := s!"Library \x7b path: {Text.quoted l.path} \x7d"

end Library

/-- Symbols with their addresses; the first entry of a name counts. -/
structure SymbolTable where
  symbols : List (String × Address) := []
deriving Repr, DecidableEq

namespace SymbolTable

/-- What messages call the table. -/
def title : String := "<symbol table>"

/-- Puts a symbol into the table, in place of an earlier one of its name. -/
def insert (t : SymbolTable) (name : String) (address : Address) : SymbolTable :=
  ⟨(name, address) :: t.symbols.filter (·.1 ≠ name)⟩

/-- The address of a symbol. -/
def resolve (t : SymbolTable) (name : String) : Except LoadFailure Address :=
  match t.symbols.lookup name with
  | some a => .ok a
  | none => .error (.symbol name title)

end SymbolTable

end Introspect
