import Introspect.Descriptor.Symbol
import Introspect.Native.Memory

/-!
# Failures of native calls

What can go wrong before a native call (a symbol is missing, a signature cannot be laid out, the
bindings have not been given their metadata) and what the native side reports itself, through an
error record in its memory. Each failure is a cause; its wording is in one place.
-/

namespace Introspect

/-- Why a library or a symbol of it could not be had. -/
inductive LoadFailure
  | library (path : String)
  | symbol (name source : String)
  /-- A text with a NUL in it, which the loader cannot be given; `what` says which. -/
  | nul (what : String) (position : Nat)
deriving Repr, DecidableEq

/-- The text of the failure. -/
def LoadFailure.message : LoadFailure → String
  | .library path => s!"Library not found: {path}"
  | .symbol name source => s!"Symbol not found: {name} in {source}"
  | .nul what position =>
      s!"Platform error: Invalid {what}: nul byte found in provided data at position: {position}"

/-- Why a signature could not be laid out. -/
inductive LayoutFailure
  | byValue (kind : ReferenceKind) (name : String)
  | noReference
  | nullFunction
  | outPosition (position arity : Nat)
deriving Repr, DecidableEq

/-- The text of the failure, without the symbol it is about. -/
def LayoutFailure.message : LayoutFailure → String
  | .byValue kind name => s!"{kind.label} {name} passed by value"
  | .noReference => "interface type without a reference"
  | .nullFunction => "null function pointer"
  | .outPosition position arity => s!"out position {position} outside {arity} arguments"

/-- What native code reports. -/
structure NativeError where
  domain : UInt32
  code : Int32
  message : String
deriving Repr, DecidableEq

/-- Why a function cannot be called. -/
inductive CallFailure
  | notFound (name home : String)
  | methodNotFound (method container : String) (kind : SymbolKind) (home : String)
  /-- Symbols of this kind cannot be called. -/
  | unsupported (kind : SymbolKind)
  | load (cause : LoadFailure)
  | layout (symbol : String) (cause : LayoutFailure)
  | native (error : NativeError)
  | uninitialized (home : String)
deriving Repr, DecidableEq

/-- The text of the failure. -/
def CallFailure.message : CallFailure → String
  | .notFound name home => s!"not found {Text.quoted name} in namespace {home}"
  | .methodNotFound method container kind home =>
      s!"not found {Text.quoted method} in {kind.name} {container} in namespace {home}"
  | .unsupported kind => s!"unsupported info type {kind.name}"
  | .load cause => cause.message
  | .layout symbol cause => s!"failed to prepare invoker for {symbol}: {cause.message}"
  | .native error => error.message
  | .uninitialized home => s!"namespace {home} is not initialized"

/-! ### Error records -/

namespace Memory

/-- An error record: the domain, the code and the address of the message. -/
def putError (m : Memory) (domain : UInt32) (code : Int32) (message : Address) : Address × Memory :=
  m.allocate (bytesOfWord 4 domain.toNat ++ bytesOfWord 4 code.toUInt32.toNat ++
    bytesOfWord 8 message.toNat)

/-- The address of a record's message. -/
def errorMessage (m : Memory) (a : Address) : Address := m.load a 8 8

/-- The error in a record, which is left where it is. -/
def errorAt? (m : Memory) (a : Address) : Option NativeError :=
  if a = 0 then none
  else some
    { domain := (m.load a 0 4).toUInt32
      code := (m.load a 4 4).toUInt32.toInt32
      message := m.textAt (m.errorMessage a) }

/-- The error in a record; its message and the record itself are given back. -/
def takeError? (m : Memory) (a : Address) : Option NativeError × Memory :=
  match m.errorAt? a with
  | none => (none, m)
  | some e => (some e, (m.release (m.errorMessage a)).release a)

end Memory

end Introspect
