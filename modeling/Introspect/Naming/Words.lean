import Introspect.Text.Case

/-!
# Names in the generated source

Native names come in two spellings, words joined by underscores and words run together with
capitals; generated items use both. A name that is a keyword of the generated language is escaped,
and so is one that generated code itself relies on.
-/

namespace Introspect.Naming

/-- Keywords of the generated language, in use and reserved. -/
def keywords : List String := [
  "as", "async", "await", "break", "const", "continue", "crate", "dyn", "else", "enum", "extern",
  "false", "fn", "for", "if", "impl", "in", "let", "loop", "match", "mod", "move", "mut", "pub",
  "ref", "return", "self", "Self", "static", "struct", "super", "trait", "true", "type", "unsafe",
  "use", "where", "while", "abstract", "become", "box", "do", "final", "gen", "macro", "override",
  "priv", "try", "typeof", "unsized", "virtual", "yield"]

/-- The words that generated functions use for themselves. -/
def ambient : List String := ["gi", "log", "std", "ctx"]

/-- Keywords that have no raw spelling. -/
def rawless : List String := ["self", "Self", "super", "crate"]

/-- A local variable may not have this name as it is. -/
def isReserved (name : String) : Bool := keywords.contains name || ambient.contains name

/-- The item named after a native name. -/
def itemName (name : String) : String :=
  if rawless.contains name then name ++ "_"
  else if keywords.contains name then "r#" ++ name
  else name

/-- The parts of a name between underscores, empty ones too. -/
def splitWords : List Char → List (List Char)
  | [] => [[]]
  | c :: rest =>
      if c = '_' then [] :: splitWords rest
      else
        match splitWords rest with
        | w :: ws => (c :: w) :: ws
        | [] => [[c]]

/-- A word with its first letter in upper case and the rest in lower; no word at all leaves an
underscore. -/
def camelWord (word : List Char) : List Char :=
  match word, Text.lowerFrom [] word with
  | [], _ | _, [] => ['_']
  | _, c :: rest => Text.upperChar c ++ rest

/-- `new_from_file` to `NewFromFile`. -/
def snakeToCamel (name : String) : String :=
  String.ofList ((splitWords name.toList).flatMap camelWord)

/-- A capital becomes an underscore and its lower-case form. -/
def snakeChar (c : Char) : List Char :=
  if Text.isUpper c then '_' :: Text.lowerChar c else [c]

/-- `IOChannel` to `i_o_channel`: each capital starts a word. -/
def camelToSnake (name : String) : String :=
  match name.toList with
  | [] => ""
  | c :: rest =>
      String.ofList ((if Text.isUpper c then Text.lowerChar c else [c]) ++ rest.flatMap snakeChar)

/-- The host type of an enumeration. -/
def enumType (name : String) : String := name ++ "Enum"

/-- The type of a set of flags; the suffix is not doubled. -/
def flagsType (name : String) : String :=
  if "Flags".toList.isSuffixOf name.toList then name else name ++ "Flags"

/-- The constant of a member of an enumeration or a set of flags. -/
def memberConst (name : String) : String :=
  let upper := Text.upper (String.ofList (name.toList.map fun c => if c = '-' then '_' else c))
  match upper.toList with
  | c :: _ => if c.isDigit then "_" ++ upper else upper
  | [] => upper

/-- The function through which native code enters a callback type. -/
def trampoline (callback : String) : String := camelToSnake callback ++ "_trampoline"

end Introspect.Naming
