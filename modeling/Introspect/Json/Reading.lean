import Introspect.Json.Scan

/-!
# Reading scanned text

A reader walks a scanned text in order and stops at the first fault, so of two faults the one that
stands first in the text decides. What it returns is plain JSON that holds no fault, and whatever is
decoded from that can only fail by its shape. A reader carries how many more containers may be
opened; a member that no field asks for is skipped instead of read, and nesting does not count
there.
-/

namespace Introspect.Json

/-- How deep containers may nest, one more than the deepest that is read. -/
def nestingLimit : Nat := 128

/-- Reads a value with so many levels of nesting left. -/
abbrev Reader := Nat → Scan → Reading Json

/-- Enters a container. -/
def descend (depth : Nat) : Reading Nat :=
  if depth ≤ 1 then .error .malformed else .ok (depth - 1)

namespace Ending

/-- What ends the parts, once all of them are read. -/
def read : Ending → Reading Unit
  | .closed => .ok ()
  | .broken _ f => .error f
  | .unreached => .ok ()

end Ending

namespace Scan

mutual

/-- Passes over a value. -/
def skip : Scan → Reading Unit
  | .null | .bool _ | .number _ | .text _ => .ok ()
  | .list items ending => do
      skipItems items
      ending.read
  | .object members ending => do
      skipMembers members
      ending.read
  | .cut _ f => .error f

/-- Items that are skipped one by one. -/
def skipItems : List Scan → Reading Unit
  | [] => .ok ()
  | v :: rest => do
      v.skip
      skipItems rest

/-- Members that are skipped one by one; a name is skipped with its value. -/
def skipMembers : List (Reading String × Scan) → Reading Unit
  | [] => .ok ()
  | (_, v) :: rest => do
      v.skip
      skipMembers rest

end

mutual

/-- Reads a value of any shape. -/
def capture (depth : Nat) : Scan → Reading Json
  | .null => .ok .null
  | .bool b => .ok (.bool b)
  | .number n => n.map .number
  | .text s => s.map .text
  | .list items ending => do
      let xs ← captureItems (← descend depth) items
      ending.read
      return .list xs
  | .object members ending => do
      let ms ← captureMembers (← descend depth) members
      ending.read
      return .object ms
  | .cut f _ => .error f

/-- The items, up to the first fault. -/
def captureItems (depth : Nat) : List Scan → Reading (List Json)
  | [] => .ok []
  | v :: rest => do
      let x ← v.capture depth
      return x :: (← captureItems depth rest)

/-- The members, up to the first fault. -/
def captureMembers (depth : Nat) : List (Reading String × Scan) → Reading (List (String × Json))
  | [] => .ok []
  | (key, v) :: rest => do
      let name ← key
      let x ← v.capture depth
      return (name, x) :: (← captureMembers depth rest)

end

/-- Refuses a value for its shape, unless the value itself has a fault. A container is refused
before anything in it is looked at. -/
def refuse {α : Type} : Scan → Reading α
  | .null | .bool _ | .list .. | .object .. => .error .mismatched
  | .number n => n.bind fun _ => .error .mismatched
  | .text s => s.bind fun _ => .error .mismatched
  | .cut f _ => .error f

end Scan

namespace Reader

/-- A text. -/
def text : Reader
  | _, .text s => s.map .text
  | _, v => v.refuse

/-- A natural number up to a bound. -/
def natUpTo (high : Nat) : Reader
  | _, .number n => do
      let j := Json.number (← n)
      if (j.natUpTo? high).isSome then .ok j else .error .mismatched
  | _, v => v.refuse

/-- A value or `null`. -/
def optional (r : Reader) : Reader
  | _, .null => .ok .null
  | depth, v => r depth v

/-- The items of a list, each by the same reader. -/
def items (r : Reader) (depth : Nat) : List Scan → Reading (List Json)
  | [] => .ok []
  | v :: rest => do
      let x ← r depth v
      return x :: (← items r depth rest)

/-- A list; each item is read by `r`. -/
def list (r : Reader) : Reader
  | depth, .list vs ending => do
      let xs ← items r (← descend depth) vs
      ending.read
      return .list xs
  | _, v => v.refuse

/-- Reads a value that must also satisfy `p`. -/
def checked (p : Json → Bool) (r : Reader) : Reader := fun depth v => do
  let j ← r depth v
  if p j then .ok j else .error .mismatched

/-- The members of a record: a known name has its reader and may occur once, any other is
skipped. -/
def members (table : List (String × Reader)) (depth : Nat) (seen : List String) :
    List (Reading String × Scan) → Reading (List (String × Json))
  | [] => .ok []
  | (key, v) :: rest => do
      let name ← key
      match table.lookup name with
      | none =>
          v.skip
          members table depth seen rest
      | some r =>
          if name ∈ seen then .error .mismatched
          else
            let x ← r depth v
            return (name, x) :: (← members table depth (name :: seen) rest)

/-- The fields of a record given in order, without their names. Items beyond the last field are no
shape of the record but a fault of the text. -/
def positional (depth : Nat) (ending : Ending) :
    List (String × Reader) → List Scan → Reading (List (String × Json))
  | [], [] =>
      match ending with
      | .broken true _ => .error .malformed
      | e => e.read.map fun _ => []
  | [], _ :: _ => .error .malformed
  | _ :: _, [] => ending.read.map fun _ => []
  | (name, r) :: table, v :: rest => do
      let x ← r depth v
      return (name, x) :: (← positional depth ending table rest)

/-- A record, by name or by position; what is read has names. `complete` says whether the fields
found suffice. -/
def record (table : List (String × Reader)) (complete : List (String × Json) → Bool) : Reader
  | depth, .object ms ending => do
      let fields ← members table (← descend depth) [] ms
      ending.read
      if complete fields then .ok (.object fields) else .error .mismatched
  | depth, .list vs ending => do
      let fields ← positional (← descend depth) ending table vs
      if complete fields then .ok (.object fields) else .error .mismatched
  | _, v => v.refuse

/-- The members of a tagged value: the tag is a known name and occurs once, all else is captured. -/
def taggedMembers (tag : String) (known : String → Bool) (depth : Nat) (seen : Bool) :
    List (Reading String × Scan) → Reading (List (String × Json))
  | [] => .ok []
  | (key, v) :: rest => do
      let name ← key
      if name = tag then
        if seen then .error .mismatched
        else
          let x ← checked (fun j => j.text?.any known) text depth v
          return (name, x) :: (← taggedMembers tag known depth true rest)
      else
        let x ← v.capture depth
        return (name, x) :: (← taggedMembers tag known depth seen rest)

/-- A value whose shape is told by one of its members, or by its first item. -/
def tagged (tag : String) (known : String → Bool) : Reader
  | depth, .object ms ending => do
      let fields ← taggedMembers tag known (← descend depth) false ms
      ending.read
      if (fields.lookup tag).isSome then .ok (.object fields) else .error .mismatched
  | depth, .list vs ending => do
      let depth ← descend depth
      match vs with
      | [] => ending.read.bind fun _ => .error .mismatched
      | v :: rest =>
          let x ← checked (fun j => j.text?.any known) text depth v
          let xs ← Scan.captureItems depth rest
          ending.read
          return .list (x :: xs)
  | _, v => v.refuse

end Reader

/-- Reads a whole text. -/
def read (r : Reader) (text : String) : Reading Json := do
  let (v, trailing) := scan text.toList
  let j ← r nestingLimit v
  if trailing then .error .malformed else .ok j

/-- Reads a whole text of any shape. -/
def ofText (text : String) : Reading Json := read (fun depth v => v.capture depth) text

end Introspect.Json
