import Introspect.Native.Carrier

/-!
# Invokers

An invoker is a native function with its signature laid out: the carriers of its parameters and of
its result, and the positions that the caller's out block feeds. A function's parameters are the
instance of a method, its arguments, and the place for an error of a function that can fail; an
argument whose value travels through the out block is carried as the address of a slot of it.

`prepare` lays out a described function; `call` points the fed positions at the block's slots, one
after another, and leaves every other slot as the caller filled it.
-/

namespace Introspect

/-- A native parameter: its carrier, and whether the out block feeds it. -/
structure Parameter where
  carrier : Carrier
  fed : Bool := false
deriving Repr, DecidableEq

/-- The positions of the entries that satisfy `p`, counted from `start`. -/
def positionsFrom {α : Type} (p : α → Bool) : Nat → List α → List Nat
  | _, [] => []
  | start, x :: rest =>
      if p x then start :: positionsFrom p (start + 1) rest else positionsFrom p (start + 1) rest

namespace Parameter

/-- A pointer that the out block feeds. -/
def slot : Parameter := ⟨.pointer, true⟩

/-- The parameter of an argument. Memory the caller allocates is passed as it is given. -/
def ofArgument (a : Argument) : Except LayoutFailure Parameter :=
  if a.usesOutSlot then .ok slot
  else
    match a.direction with
    | .in => (Carrier.of a.type).map fun c => ⟨c, false⟩
    | .out | .inout => .ok ⟨.pointer, false⟩

end Parameter

/-- All positions of a native function: the instance before its arguments, the error behind them. -/
def Function.parameters (f : Function) : Except LayoutFailure (List Parameter) := do
  let instances := if f.flags.isMethod then [⟨.pointer, false⟩] else []
  let errors := if f.flags.throws then [Parameter.slot] else []
  return instances ++ (← f.args.mapM Parameter.ofArgument) ++ errors

/-- A native function that is ready to be called. -/
structure Invoker where
  symbol : String
  address : Address
  params : List Carrier
  result : Carrier
  /-- The positions the out block feeds, in the order of its slots. -/
  fed : List Nat
deriving Repr, DecidableEq

/-- A native function: from the machine words of its arguments and the memory to the word of its
result and the memory it leaves. -/
abbrev NativeFunction := List UInt64 → Memory → UInt64 × Memory

namespace Invoker

/-- An invoker with a given signature. It is refused when it has no address, or when a slot of the
out block feeds a position that is not there. -/
def withSignature (symbol : String) (address : Address) (params : List Carrier) (result : Carrier)
    (fed : List Nat) : Except CallFailure Invoker :=
  if address = 0 then .error (.layout symbol .nullFunction)
  else
    match fed.find? fun p => decide (params.length ≤ p) with
    | some p => .error (.layout symbol (.outPosition p params.length))
    | none => .ok { symbol, address, params, result, fed }

/-- The invoker of a described function at an address. -/
def prepare (f : Function) (address : Address) : Except CallFailure Invoker := do
  let wrong (cause : LayoutFailure) : CallFailure := .layout f.symbol cause
  let params ← f.parameters.mapError wrong
  let result ← (Carrier.of f.returns).mapError wrong
  withSignature f.symbol address (params.map (·.carrier)) result (positionsFrom (·.fed) 0 params)

/-- How many values the native function takes. -/
def arity (iv : Invoker) : Nat := iv.params.length

/-- How many slots the out block has. -/
def outArity (iv : Invoker) : Nat := iv.fed.length

/-- The invoker as it is shown in messages. -/
def text (iv : Invoker) : String :=
  s!"Invoker \x7b symbol: {Text.quoted iv.symbol}, n_args: {iv.arity} \x7d"

/-- Points positions at the slots of a block, one after another from slot `k` on. -/
def pointAt (base : Address) : Nat → List Nat → List Slot → List Slot
  | _, [], args => args
  | k, p :: rest, args =>
      pointAt base (k + 1) rest (args.set p (.of .ptr (Memory.slotAddress base k)))

/-- The arguments as they are passed: with no out block, as the caller filled them. -/
def passed (iv : Invoker) (args : List Slot) (block : Option Address) : List Slot :=
  match block with
  | none => args
  | some base => pointAt base 0 iv.fed args

/-- Calls the function behind the invoker; the result slot keeps what no result overwrites. -/
def call (iv : Invoker) (run : NativeFunction) (args : List Slot) (block : Option Address)
    (result : Slot) (m : Memory) : Slot × Memory :=
  let words := List.zipWith (fun c (s : Slot) => c.widen s.bits) iv.params (iv.passed args block)
  let (word, m) := run words m
  (iv.result.deliver word result, m)

end Invoker

end Introspect
