import Introspect.Text.Classes

/-!
# Directives

A line may carry directives, comments of the form `word:path` with the word made of word characters
and the path not empty. They are taken out of the line; a directive `use` names a path the file has
to import. Anything else between comment marks stays where it is.
-/

namespace Introspect.Source

/-- A directive at the start of the characters, and how many characters it takes. -/
structure Directive where
  word : List Char
  path : List Char
deriving Repr, DecidableEq

/-- The length of a directive in the line: its marks, the colon and what they enclose. -/
def Directive.length (d : Directive) : Nat := d.word.length + d.path.length + 5

/-- The characters up to the first closing mark, when a line break does not come before it. -/
def untilClose : List Char → Option (List Char)
  | '*' :: '/' :: _ => some []
  | c :: rest => if c = '\n' then none else (untilClose rest).map (c :: ·)
  | [] => none

/-- A path: one character at least, then all up to the first closing mark. -/
def pathOf : List Char → Option (List Char)
  | [] => none
  | c :: rest => if c = '\n' then none else (untilClose rest).map (c :: ·)

/-- The directive at the start, if one stands there. -/
def directiveAt : List Char → Option Directive
  | '/' :: '*' :: rest =>
      let word := rest.takeWhile Text.isWord
      match word, rest.dropWhile Text.isWord with
      | [], _ => none
      | _, ':' :: rest => (pathOf rest).map fun path => ⟨word, path⟩
      | _, _ => none
  | _ => none

/-- A line taken apart into its characters and directives. -/
inductive Part
  | char (c : Char)
  | directive (d : Directive)
deriving Repr, DecidableEq

/-- Takes a line apart from the left; `skip` characters still belong to the last directive. -/
def parts (skip : Nat) : List Char → List Part
  | [] => []
  | c :: rest =>
      match skip with
      | k + 1 => parts k rest
      | 0 =>
          match directiveAt (c :: rest) with
          | some d => .directive d :: parts (d.length - 1) rest
          | none => .char c :: parts 0 rest

/-- A line without its directives. -/
def strip (line : String) : String :=
  String.ofList ((parts 0 line.toList).filterMap fun
    | .char c => some c
    | .directive _ => none)

/-- The paths a line asks to import. -/
def uses (line : String) : List String :=
  (parts 0 line.toList).filterMap fun
    | .directive d =>
        if d.word = ['u', 's', 'e'] then some (Text.trim (String.ofList d.path)) else none
    | .char _ => none

end Introspect.Source
