import Introspect.Demo.Session

/-!
# Functions of the host

Functions a program can hand to the demonstration library. One of them calls the library itself
while the library is calling it.
-/

namespace Introspect.Demo

/-- A function of the host that a script can name. -/
inductive HostFunction
  /-- Multiplies and adds; both wrap. -/
  | affine (factor summand : Int32)
  /-- Has the library apply a function twice. -/
  | twice (f : HostFunction)
deriving Repr, DecidableEq

/-- What the function makes of a number. A nested call of the library registers a closure of its
own, and leaves nothing behind for the calls around it. -/
def HostFunction.apply : HostFunction → Int32 → Int32
  | .affine factor summand, x => x * factor + summand
  | .twice f, x => (Session.applyTwice .checked f.apply x Session.fresh).toOption.elim 0 Prod.fst

end Introspect.Demo
