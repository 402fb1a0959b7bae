import Introspect.Binding.Execution
import Introspect.Demo.Namespace
import Introspect.Demo.Natives

/-!
# Sessions with the demonstration library

The part of the demonstration library that calls back. Native code keeps what it was handed and no
more: for a deferred and for a watched closure the address of its trampoline and the word of its
user data. All else is done by the generated functions and trampolines, which are run as they are
written for the namespace.
-/

namespace Introspect.Demo

open Binding

/-- A callback that native code keeps. -/
structure Pending where
  callback : Entrance
  /-- The word of the user data. -/
  data : UInt64
deriving Repr, DecidableEq

/-- What the library keeps from one call to the next. -/
structure Kept where
  deferred : Option Pending := none
  watched : Option Pending := none
  /-- The values shown to the visitor, the last first. -/
  seen : List Int32 := []
  /-- The counters in the order they were made. -/
  counters : List Counter := []

/-- Where a program and the library stand. -/
abbrev Session := World (Int32 → Int32) Kept

/-! ### Native code -/

/-- A part of a session. -/
abbrev Part := Run (Int32 → Int32) Kept

/-- The way into the file that native code is given. -/
abbrev Enter := Entrance → List UInt64 → Part UInt64

/-- The word of a number. -/
def number (x : Int32) : UInt64 := Cell.toBits .i32 x

/-- The number native code reads from a word. -/
def asNumber (word : UInt64) : Int32 := Cell.ofBits .i32 word

/-- Calls a callback that takes a number and user data. -/
def callBack (enter : Enter) (callback : Entrance) (data : UInt64) (x : Int32) : Part Int32 := do
  return asNumber (← enter callback [number x, data])

/-- Calls back what native code may have kept. -/
def callKept (enter : Enter) (kept : Option Pending) (x : Int32) : Part Int32 :=
  match kept with
  | some p => callBack enter p.callback p.data x
  | none => return -1

/-- What stands in place of a result where a function has none. -/
def nothing : UInt64 := 0

/-- Calls `func` on what it makes of `x`. -/
def applyTwiceRoutine : NativeRoutine (Int32 → Int32) Kept
  | enter, [.entrance func, .word data, .word x] => do
      let y ← callBack enter func data (asNumber x)
      return number (← callBack enter func data y)
  | _, _ => Run.undefined

/-- Keeps the trampoline and its user data for later. -/
def deferRoutine : NativeRoutine (Int32 → Int32) Kept
  | _, [.entrance func, .word data] => do
      modify fun s => { s with native.deferred := some ⟨func, data⟩ }
      return nothing
  | _, _ => Run.undefined

/-- Calls what was kept last; it is kept on. -/
def runDeferredRoutine : NativeRoutine (Int32 → Int32) Kept
  | enter, [.word x] => do
      return number (← callKept enter (← get).native.deferred (asNumber x))
  | _, _ => Run.undefined

/-- Calls `func` once, then releases it right away. -/
def watchRoutine : NativeRoutine (Int32 → Int32) Kept
  | enter, [.entrance func, .word data, .entrance notify, .word x] => do
      modify fun s => { s with native.watched := some ⟨func, data⟩ }
      let y ← callBack enter func data (asNumber x)
      let _ ← enter notify [data]
      return number y
  | _, _ => Run.undefined

/-- Calls the watched closure, if one is kept. -/
def pokeWatchedRoutine : NativeRoutine (Int32 → Int32) Kept
  | enter, [.word x] => do
      return number (← callKept enter (← get).native.watched (asNumber x))
  | _, _ => Run.undefined

/-- The native functions that take part in lifecycles. -/
def natives (symbol : String) : Option (NativeRoutine (Int32 → Int32) Kept) :=
  [("demo_apply_twice", applyTwiceRoutine), ("demo_defer", deferRoutine),
    ("demo_run_deferred", runDeferredRoutine), ("demo_watch", watchRoutine),
    ("demo_poke_watched", pokeWatchedRoutine)].lookup symbol

/-! ### Calls of generated functions -/

/-- The functions a session is given are of the one closure type of the namespace. -/
def host : Host (Int32 → Int32) where
  isOf type _ := type = "ApplyFunc"
  call
    | f, [⟨.i32, x⟩] => some (some ⟨.i32, f x⟩)
    | _, _ => none

/-- The generated functions and trampolines of the namespace. -/
def program : Program := .of scope {}

namespace Session

/-- A session before its first call. -/
def fresh : Session := { native := {} }

variable (arithmetic : Arithmetic)

/-- Calls a generated function that returns a number. -/
def ask (name : String) (args : List (Value (Int32 → Int32))) : Part Int32 := do
  match ← program.call arithmetic host natives name args with
  | some ⟨.i32, y⟩ => return y
  | _ => Run.undefined

/-- Calls the generated `apply_twice`. -/
def applyTwice (f : Int32 → Int32) (x : Int32) : Part Int32 :=
  ask arithmetic "apply_twice" [.function f, .scalar ⟨.i32, x⟩]

/-- Calls the generated `defer`. -/
def defer (f : Int32 → Int32) : Part Unit := do
  match ← program.call arithmetic host natives "defer" [.function f] with
  | none => return ()
  | some _ => Run.undefined

/-- Calls the generated `run_deferred`. -/
def runDeferred (x : Int32) : Part Int32 := ask arithmetic "run_deferred" [.scalar ⟨.i32, x⟩]

/-- Calls the generated `watch`. -/
def watch (f : Int32 → Int32) (x : Int32) : Part Int32 :=
  ask arithmetic "watch" [.function f, .scalar ⟨.i32, x⟩]

/-- Calls the generated `poke_watched`. -/
def pokeWatched (x : Int32) : Part Int32 := ask arithmetic "poke_watched" [.scalar ⟨.i32, x⟩]

end Session

/-! ### The visitor -/

namespace Session

/-- What the visitor written by hand answers. -/
def visitorGoesOn (v : Int32) : Bool := v < 3

/-- Shows the visitor the numbers below `n`; the answer is how many it was shown. -/
def visitRange (s : Session) (n : Int32) : Int32 × Session :=
  let shown := visitedFrom visitorGoesOn 0 n.toInt.toNat
  (Int32.ofNat shown.length, { s with native.seen := shown.reverse ++ s.native.seen })

/-- A callback that no user data goes with is not passed on. -/
def applyUnpaired : Int32 := -1

/-! ### Counters -/

/-- Keeps a counter; the answer is its number. -/
def keep (s : Session) (c : Counter) : Nat × Session :=
  (s.native.counters.length, { s with native.counters := s.native.counters ++ [c] })

/-- A counter by the number it was made under. -/
def counter (s : Session) (n : Nat) : Counter := s.native.counters.getD n {}

/-- Changes a counter; the answer is its value afterwards. -/
def change (s : Session) (n : Nat) (f : Counter → Counter) : Int32 × Session :=
  let c := f (s.counter n)
  (c.value, { s with native.counters := s.native.counters.set n c })

/-- The names of the host types for counters, by runtime type. -/
def wrappers : WrapperRegistry String :=
  (({} : WrapperRegistry String).register counterType "Counter").register labeledCounterType
    "LabeledCounter"

/-- The name of the host type a counter is given. -/
def typeName (c : Counter) : String := (wrappers.wrap (.of c.type) "Counter").getD ""

end Session

end Introspect.Demo
