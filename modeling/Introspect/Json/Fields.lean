import Introspect.Json.Basic

/-!
# Records in JSON

A record is an object whose members are its fields, or a list of the fields in their order. Members
that are no field are ignored; a field that occurs twice spoils the record. Each field is then
required, optional, or has a default.
-/

namespace Introspect.Json

/-- The known members of a record. -/
abbrev Fields := List (String × Json)

/-- No name occurs twice. -/
def distinct : List String → Bool
  | [] => true
  | x :: rest => !rest.contains x && distinct rest

/-- The known fields of a record. An object may have unknown members as well; a list gives the
fields by position. -/
def fields? (names : List String) : Json → Option Fields
  | .object ms =>
      let known := ms.filter fun m => names.contains m.1
      if distinct (known.map Prod.fst) then some known else none
  | .list xs => if xs.length ≤ names.length then some (names.zip xs) else none
  | _ => none

namespace Fields

variable {α : Type}

/-- A field that may not be missing. -/
def required (fs : Fields) (name : String) (decode : Json → Option α) : Option α :=
  (fs.lookup name).bind decode

/-- A field with a value to fall back on. -/
def default (fs : Fields) (name : String) (value : α) (decode : Json → Option α) : Option α :=
  match fs.lookup name with
  | none => some value
  | some j => decode j

/-- A field that may be missing or `null`. -/
def optional (fs : Fields) (name : String) (decode : Json → Option α) : Option (Option α) :=
  match fs.lookup name with
  | none | some .null => some none
  | some j => (decode j).map some

end Fields

/-- A member of a closed set of names: a text, or an object with that one member and nothing in
it. -/
def named? {α : Type} (table : List (String × α)) : Json → Option α
  | .text s => table.lookup s
  | .object [(s, .null)] | .object [(s, .object [])] => table.lookup s
  | _ => none

end Introspect.Json
