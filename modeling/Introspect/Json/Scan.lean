import Introspect.Json.Basic

/-!
# A text scanned as JSON

A text is scanned once, from the left, into a tree that ends where the text stops being JSON. What
is wrong with a text depends on who looks: a reader of a value minds a number too large for any
floating-point number and an escape that is half of a surrogate pair, while one that skips the value
does not. So a leaf keeps the fault that reading it would find, and a place where the text breaks
keeps one fault for reading and one for skipping.
-/

namespace Introspect.Json

/-- Why a text is refused: it is not JSON, it ends early, or it is JSON of another shape. -/
inductive Fault
  | malformed
  | truncated
  | mismatched
deriving Repr, DecidableEq

/-- What reading gives, or the first fault. -/
abbrev Reading := Except Fault

/-- What stands behind the last part of a list or an object. -/
inductive Ending
  | closed
  /-- Neither a further part nor the closing bracket stands where one is due. -/
  | broken (afterComma : Bool) (fault : Fault)
  /-- The text broke inside the last part. -/
  | unreached
deriving Repr, DecidableEq

/-- A text taken apart, down to where it breaks. What is wrong inside a value only counts once the
value is read. -/
inductive Scan
  | null
  | bool (b : Bool)
  | number (n : Reading Number)
  | text (s : Reading String)
  | list (items : List Scan) (ending : Ending)
  | object (members : List (Reading String × Scan)) (ending : Ending)
  | cut (read skip : Fault)

/-- The blanks JSON allows between its parts. -/
def isGap (c : Char) : Bool := c = ' ' || c = '\n' || c = '\t' || c = '\r'

/-- What follows blanks and line breaks. -/
def skipGap (cs : List Char) : List Char := cs.dropWhile isGap

/-! ## Text -/

/-- A piece of a text: a character, or the 16-bit unit of an escape. -/
inductive Piece
  | char (c : Char)
  | unit (n : Nat)
deriving Repr, DecidableEq

/-- The value of a hexadecimal digit. -/
def hexValue (c : Char) : Option Nat :=
  if '0' ≤ c ∧ c ≤ '9' then some (c.toNat - 48)
  else if 'a' ≤ c ∧ c ≤ 'f' then some (c.toNat - 87)
  else if 'A' ≤ c ∧ c ≤ 'F' then some (c.toNat - 55)
  else none

/-- The value of four hexadecimal digits. -/
def hexValue4 (a b c d : Char) : Option Nat := do
  return ((← hexValue a) * 16 + (← hexValue b)) * 256 + (← hexValue c) * 16 + (← hexValue d)

/-- The character a backslash and this letter stand for. -/
def shortEscape : Char → Option Char
  | '"' => some '"'
  | '\\' => some '\\'
  | '/' => some '/'
  | 'b' => some '\x08'
  | 'f' => some '\x0c'
  | 'n' => some '\n'
  | 'r' => some '\r'
  | 't' => some '\t'
  | _ => none

/-- The pieces after an opening quote, and what follows the closing one. -/
def pieces : List Char → List Piece × Reading (List Char)
  | [] => ([], .error .truncated)
  | c :: rest =>
      if c = '"' then ([], .ok rest)
      else if c = '\\' then
        match rest with
        | [] => ([], .error .truncated)
        | e :: rest =>
            if e = 'u' then
              match rest with
              | h₁ :: h₂ :: h₃ :: h₄ :: rest =>
                  match hexValue4 h₁ h₂ h₃ h₄ with
                  | some n =>
                      let (ps, out) := pieces rest
                      (.unit n :: ps, out)
                  | none => ([], .error .malformed)
              | short =>
                  let bytes := (String.ofList short).utf8ByteSize
                  ([], .error (if bytes < 4 then .truncated else .malformed))
            else
              match shortEscape e with
              | some c =>
                  let (ps, out) := pieces rest
                  (.char c :: ps, out)
              | none => ([], .error .malformed)
      else if c.toNat < 0x20 then ([], .error .malformed)
      else
        let (ps, out) := pieces rest
        (.char c :: ps, out)

/-- The characters of the pieces, surrogate pairs joined; `none` when a surrogate stands alone.
`high` is a first half that waits for its second. -/
def joinPieces : Option Nat → List Piece → Option (List Char)
  | none, [] => some []
  | some _, [] => none
  | none, .char c :: rest => (joinPieces none rest).map (c :: ·)
  | some _, .char _ :: _ => none
  | none, .unit n :: rest =>
      if n < 0xD800 ∨ 0xDFFF < n then (joinPieces none rest).map (Char.ofNat n :: ·)
      else if n < 0xDC00 then joinPieces (some n) rest
      else none
  | some high, .unit n :: rest =>
      if 0xDC00 ≤ n ∧ n ≤ 0xDFFF then
        let c := Char.ofNat (0x10000 + (high - 0xD800) * 0x400 + (n - 0xDC00))
        (joinPieces none rest).map (c :: ·)
      else none

/-- Whether the pieces hold a lone surrogate whatever pieces follow them. -/
def strayUnit : Bool → List Piece → Bool
  | _, [] => false
  | high, .char _ :: rest => high || strayUnit false rest
  | high, .unit n :: rest =>
      let second : Bool := 0xDC00 ≤ n && n ≤ 0xDFFF
      if high then !second || strayUnit false rest
      else second || strayUnit (0xD800 ≤ n && n < 0xDC00) rest

/-- A text and what follows it, or the place where it breaks. -/
inductive TextScan
  | whole (s : Reading String) (rest : List Char)
  | broken (read skip : Fault)

/-- Scans a text after its opening quote. A reader refuses a lone surrogate even in a text that
breaks later on. -/
def scanText (cs : List Char) : TextScan :=
  match pieces cs with
  | (ps, .ok rest) =>
      match joinPieces none ps with
      | some s => .whole (.ok (String.ofList s)) rest
      | none => .whole (.error .malformed) rest
  | (ps, .error f) => .broken (if strayUnit false ps then .malformed else f) f

/-! ## Numbers -/

/-- A number as it is written. -/
structure Lexeme where
  negative : Bool
  whole : List Char
  fraction : Option (List Char)
  /-- The exponent's sign, true when negative, and digits. -/
  power : Option (Bool × List Char)
deriving Repr, DecidableEq

/-- The value of a decimal digit. -/
def digitValue (c : Char) : Nat := c.toNat - 48

/-- The greatest unsigned 64-bit word. -/
def wordMax : Nat := UInt64.size - 1

/-- Takes digits into a significand as long as it fits a word; the rest is left. -/
def gather : Nat → List Char → Nat × List Char
  | n, [] => (n, [])
  | n, d :: rest =>
      let n' := n * 10 + digitValue d
      if n' ≤ wordMax then gather n' rest else (n, d :: rest)

/-- Scales `f` by `10 ^ exponent`, in steps of at most 308 powers; `none` when it overflows. -/
def scalePow (f : Binary64) (exponent : Int) : Nat → Option Binary64
  | 0 => some f
  | fuel + 1 =>
      if exponent.natAbs ≤ 308 then
        let pow := Binary64.ofNat (Nat.pow 10 exponent.natAbs)
        if exponent ≥ 0 then
          let g := f.mul pow
          if g.isInfinite then none else some g
        else some (f.div pow)
      else if f.isZero then some f
      else if exponent ≥ 0 then none
      else scalePow (f.div (Binary64.ofNat (Nat.pow 10 308))) (exponent + 308) fuel

/-- The number `significand · 10 ^ exponent`, each step rounded. -/
def ofParts (negative : Bool) (significand : Nat) (exponent : Int) : Reading Number :=
  match scalePow (Binary64.ofNat significand) exponent 4 with
  | some f => .ok (.float (if negative then f.neg else f))
  | none => .error .malformed

/-- An exponent's digits, unless they exceed a 32-bit word. -/
def exponentOf (ds : List Char) : Option Nat :=
  let n := ds.foldl (fun n d => min (n * 10 + digitValue d) 0x80000000) 0
  if n < 0x80000000 then some n else none

/-- Applies the written exponent to what was gathered before it. -/
def withPower (negative : Bool) (significand : Nat) (base : Int) :
    Option (Bool × List Char) → Reading Number
  | none => ofParts negative significand base
  | some (down, ds) =>
      match exponentOf ds with
      | some e => ofParts negative significand (if down then base - e else base + e)
      | none =>
          if significand ≠ 0 ∧ !down then .error .malformed
          else .ok (.float (Binary64.zero negative))

/-- The number a lexeme stands for. A significand keeps as many digits as fit a word, and digits
beyond them count as powers of ten before the point and not at all after it. -/
def Lexeme.toNumber (l : Lexeme) : Reading Number :=
  let (n, dropped) := gather 0 l.whole
  match l.fraction with
  | some ds =>
      let (m, left) := gather n ds
      withPower l.negative m ((dropped.length : Int) - (ds.length - left.length : Nat)) l.power
  | none =>
      match dropped, l.power with
      | [], none =>
          if !l.negative then .ok (.int n)
          else if 0 < n ∧ n ≤ 0x8000000000000000 then .ok (.int (-n))
          else .ok (.float (Binary64.ofNat n).neg)
      | _, _ => withPower l.negative n dropped.length l.power

/-- The digits at the start, and what follows them. -/
def digitRun (cs : List Char) : List Char × List Char :=
  (cs.takeWhile Char.isDigit, cs.dropWhile Char.isDigit)

/-- Where a digit is due and none stands. -/
def digitDue : List Char → Fault × Fault
  | [] => (.truncated, .malformed)
  | _ => (.malformed, .malformed)

/-- The exponent of a number, if one follows. -/
def scanPower (cs : List Char) :
    Except (Fault × Fault) (Option (Bool × List Char) × List Char) :=
  match cs with
  | [] => .ok (none, cs)
  | e :: rest =>
      if e = 'e' ∨ e = 'E' then
        let (down, rest) := match rest with
          | '-' :: rest => (true, rest)
          | '+' :: rest => (false, rest)
          | rest => (false, rest)
        match digitRun rest with
        | ([], rest) => .error (digitDue rest)
        | (ds, rest) => .ok (some (down, ds), rest)
      else .ok (none, cs)

/-- A number, from its sign or first digit on. -/
def scanLexeme (cs : List Char) : Except (Fault × Fault) (Lexeme × List Char) := do
  let (negative, cs) := match cs with
    | '-' :: rest => (true, rest)
    | cs => (false, cs)
  let (whole, rest) := digitRun cs
  match whole with
  | [] => .error (digitDue rest)
  | '0' :: _ :: _ => .error (.malformed, .malformed)
  | whole =>
      match rest with
      | '.' :: rest =>
          match digitRun rest with
          | ([], rest) => .error (digitDue rest)
          | (ds, rest) =>
              let (power, rest) ← scanPower rest
              return (⟨negative, whole, some ds, power⟩, rest)
      | rest =>
          let (power, rest) ← scanPower rest
          return (⟨negative, whole, none, power⟩, rest)

/-! ## Values -/

/-- The rest of a word such as `null`, after its first letter. -/
def scanWord (value : Scan) : List Char → List Char → Scan × Option (List Char)
  | [], rest => (value, some rest)
  | _ :: _, [] => (.cut .truncated .truncated, none)
  | w :: word, c :: rest =>
      if c = w then scanWord value word rest else (.cut .malformed .malformed, none)

/-- A text where a value is expected. -/
def scanTextValue (cs : List Char) : Scan × Option (List Char) :=
  match scanText cs with
  | .whole s rest => (.text s, some rest)
  | .broken read skip => (.cut read skip, none)

/-- A number where a value is expected. -/
def scanNumber (cs : List Char) : Scan × Option (List Char) :=
  match scanLexeme cs with
  | .ok (l, rest) => (.number l.toNumber, some rest)
  | .error (read, skip) => (.cut read skip, none)

mutual

/-- A value and what follows it; nothing follows when the text breaks inside. Each step takes a
character, so twice the length of the text is fuel enough. -/
def scanValue : Nat → List Char → Scan × Option (List Char)
  | 0, _ => (.cut .truncated .truncated, none)
  | fuel + 1, cs =>
      match skipGap cs with
      | [] => (.cut .truncated .truncated, none)
      | c :: rest =>
          if c = 'n' then scanWord .null ['u', 'l', 'l'] rest
          else if c = 't' then scanWord (.bool true) ['r', 'u', 'e'] rest
          else if c = 'f' then scanWord (.bool false) ['a', 'l', 's', 'e'] rest
          else if c = '"' then scanTextValue rest
          else if c = '[' then
            let (items, ending, out) := scanItems fuel true rest
            (.list items ending, out)
          else if c = '\x7b' then
            let (members, ending, out) := scanMembers fuel true rest
            (.object members ending, out)
          else if c = '-' ∨ c.isDigit then scanNumber (c :: rest)
          else (.cut .malformed .malformed, none)

/-- The items of a list from the place where one, a comma or the bracket is due. -/
def scanItems : Nat → Bool → List Char → List Scan × Ending × Option (List Char)
  | 0, _, _ => ([], .broken false .truncated, none)
  | fuel + 1, first, cs =>
      let item (cs : List Char) : List Scan × Ending × Option (List Char) :=
        match scanValue fuel cs with
        | (v, none) => ([v], .unreached, none)
        | (v, some rest) =>
            let (vs, ending, out) := scanItems fuel false rest
            (v :: vs, ending, out)
      match skipGap cs with
      | [] => ([], .broken false .truncated, none)
      | c :: rest =>
          if c = ']' then ([], .closed, some rest)
          else if first then item (c :: rest)
          else if c = ',' then
            match skipGap rest with
            | [] => ([], .broken true .truncated, none)
            | d :: rest => if d = ']' then ([], .broken true .malformed, none) else item (d :: rest)
          else ([], .broken false .malformed, none)

/-- The members of an object from the place where one, a comma or the brace is due. -/
def scanMembers : Nat → Bool → List Char →
    List (Reading String × Scan) × Ending × Option (List Char)
  | 0, _, _ => ([], .broken false .truncated, none)
  | fuel + 1, first, cs =>
      let member (cs : List Char) : List (Reading String × Scan) × Ending × Option (List Char) :=
        match scanText cs with
        | .broken read skip => ([(.error read, .cut read skip)], .unreached, none)
        | .whole key rest =>
            match skipGap rest with
            | [] => ([(key, .cut .truncated .truncated)], .unreached, none)
            | c :: rest =>
                if c = ':' then
                  match scanValue fuel rest with
                  | (v, none) => ([(key, v)], .unreached, none)
                  | (v, some rest) =>
                      let (ms, ending, out) := scanMembers fuel false rest
                      ((key, v) :: ms, ending, out)
                else ([(key, .cut .malformed .malformed)], .unreached, none)
      match skipGap cs with
      | [] => ([], .broken false .truncated, none)
      | c :: rest =>
          if c = '\x7d' then ([], .closed, some rest)
          else if first then
            if c = '"' then member rest else ([], .broken false .malformed, none)
          else if c = ',' then
            match skipGap rest with
            | [] => ([], .broken true .truncated, none)
            | d :: rest =>
                if d = '"' then member rest else ([], .broken true .malformed, none)
          else ([], .broken false .malformed, none)

end

/-- A whole text: its value, and whether anything but blanks follows it. -/
def scan (cs : List Char) : Scan × Bool :=
  match scanValue (2 * cs.length + 2) cs with
  | (v, some rest) => (v, !(skipGap rest).isEmpty)
  | (v, none) => (v, false)

end Introspect.Json
