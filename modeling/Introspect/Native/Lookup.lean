import Introspect.Descriptor.Symbol

/-!
# Call sites

What a generated function says about the native function behind it: the number of the call site, the
names of the function or of the container and its method, where each stood when the code was
generated, and the kind of the first. Positions are hints; names decide.
-/

namespace Introspect

/-- What a call site says about its function: the number it is kept under, the names, and hints
where it stands. -/
structure Lookup where
  id : UInt32
  outer : String
  inner : String := ""
  outerIndex : Nat
  innerIndex : Nat
  kind : SymbolKind
  /-- The container may be asked for the method by name. -/
  directQuery : Bool := true
deriving Repr, DecidableEq

end Introspect
