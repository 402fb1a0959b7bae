import Introspect.Binding.Generate
import Introspect.Native.Closures
import Introspect.Native.Invoker

/-!
# Running generated functions

What generated source does when it is run, as far as numbers and closures go. The host calls a
generated function, which registers closures, passes its slots to native code and gives up what was
for the call only. Native code has words, and the addresses of functions of the file: through these
it enters a trampoline, which finds a closure by its handle, or the release that forgets one.

A run starts from the structures the source is written from, never from its text, and every variable
is looked up by the name the source gives it. What it cannot make sense of is `undefined`: a
variable that no line binds, a value of another type, and all that lies outside this part, which is
texts, arrays, objects and the out block. The runtime context is there, and the lookup of a native
function has found the one with the symbol.
-/

namespace Introspect.Binding

/-- Why a run does not come to its end. -/
inductive Fault
  /-- No word holds a number, and the code was built to stop there. -/
  | overflow
  /-- There is no saying what happens. -/
  | undefined
deriving Repr, DecidableEq

/-- A number of the host, by the cell it travels in. -/
structure Scalar where
  cell : Cell
  value : cell.Host

/-- The number, put into a slot. -/
def Scalar.slot (x : Scalar) : Introspect.Slot := .of x.cell x.value

/-- What a variable holds; the functions of the host are of type `α`. -/
inductive Value (α : Type)
  | scalar (x : Scalar)
  | function (f : α)
  | handle (h : Handle)
  /-- What is registered under a handle. -/
  | closure (h : Handle) (c : Closure α)
  /-- A function that was found under a handle. -/
  | found (h : Handle) (f : α)

/-- How functions of the host are called. -/
structure Host (α : Type) where
  /-- Whether a function is of the closure type with a name. -/
  isOf : String → α → Bool
  /-- What it returns, if anything; `none` for arguments that are not for it. -/
  call : α → List Scalar → Option (Option Scalar)

/-- What a run reads and changes. Native code has a state of its own. -/
structure World (α ν : Type) where
  closures : ClosureRegistry α := {}
  /-- The handles that functions were called through, the first first. -/
  invoked : List Handle := []
  native : ν

/-- A part of a run. -/
abbrev Run (α ν : Type) := StateT (World α ν) (Except Fault)

namespace Run

variable {α ν β : Type}

/-- Leaves the part of the language that is followed here. -/
def undefined : Run α ν β := throw .undefined

/-- What there is, where a run depends on it. -/
def need : Option β → Run α ν β
  | some x => pure x
  | none => undefined

/-- Registers a function, unless the arithmetic is checked and no handle is left. -/
def register (arithmetic : Arithmetic) (f : α) (scope : CallbackScope) : Run α ν Handle := fun w =>
  match w.closures.register? arithmetic f scope with
  | some (h, closures) => .ok (h, { w with closures })
  | none => .error .overflow

/-- Gives up a handle; one that is not registered is left alone. -/
def unregister (h : Handle) : Run α ν Unit :=
  modify fun w => { w with closures := (w.closures.unregister h).2 }

/-- Calls a function that was found under a handle. -/
def invoke (host : Host α) (h : Handle) (f : α) (args : List Scalar) :
    Run α ν (Option Scalar) := do
  let answer ← need (host.call f args)
  modify fun w => { w with invoked := w.invoked ++ [h] }
  return answer

end Run

/-! ## Variables -/

/-- The variables in scope, the latest first. -/
abbrev Variables (α : Type) := List (String × Value α)

namespace Variables

variable {α : Type}

/-- The variable, if it is a number. -/
def scalar? (vs : Variables α) (var : String) : Option Scalar :=
  match vs.lookup var with
  | some (.scalar x) => some x
  | _ => none

/-- The value of a variable that travels in a given cell. -/
def in? (vs : Variables α) (c : Cell) (var : String) : Option Introspect.Slot :=
  ((vs.scalar? var).filter fun x => x.cell = c).map (·.slot)

/-- The variable, if it is a function of the host. -/
def function? (vs : Variables α) (var : String) : Option α :=
  match vs.lookup var with
  | some (.function f) => some f
  | _ => none

/-- The variable, if it is a handle. -/
def handle? (vs : Variables α) (var : String) : Option Handle :=
  match vs.lookup var with
  | some (.handle h) => some h
  | _ => none

/-- The variable, if it is a closure with its handle. -/
def closure? (vs : Variables α) (var : String) : Option (Handle × Closure α) :=
  match vs.lookup var with
  | some (.closure h c) => some (h, c)
  | _ => none

/-- The variable, if it is a function found under a handle. -/
def found? (vs : Variables α) (var : String) : Option (Handle × α) :=
  match vs.lookup var with
  | some (.found h f) => some (h, f)
  | _ => none

end Variables

/-! ## Trampolines -/

namespace Trampoline

variable {α ν : Type}

/-- The parameters with the words native code passes for them. -/
def bind (t : Trampoline) (words : List UInt64) : Variables α :=
  t.params.zipWith (fun p word => (p.var, .scalar ⟨p.cell, p.cell.ofBits word⟩)) words

/-- A host value that is read from the slot of a parameter. -/
def reading? (t : Trampoline) (vs : Variables α) : SlotReading → Option Scalar
  | .cell slot c => do
      let p ← t.params.find? fun p => p.slot = slot
      let s ← vs.in? p.cell p.var
      return ⟨c, s.as c⟩
  | _ => none

end Trampoline

/-- The word of what a function of the host returns. -/
def Conversion.word? (c : Cell) : Conversion → Scalar → Option UInt64
  | .same, x => if x.cell = c then some x.slot.bits else none
  | .boolToInt, ⟨.bool, b⟩ => some (Cell.toBits .i32 (truth b))
  | .charToInt, ⟨.char, x⟩ => some (Cell.toBits .u32 x.val)
  | _, _ => none

namespace Result

/-- The word a trampoline gives up with: every fallback is zero. -/
def fallbackWord : UInt64 := 0

/-- The word of an answer; where nothing is returned no one looks at it. -/
def word? (r : Result) : Option Scalar → Option UInt64
  | some x => r.cell.bind fun c => r.convert.word? c x
  | none => if r.isVoid then some 0 else none

end Result

namespace Trampoline

variable {α ν : Type}

/-- Runs the statements of a trampoline; the answer is the word it returns. -/
def run (t : Trampoline) (host : Host α) (vs : Variables α) :
    List TrampolineStatement → Run α ν UInt64
  | [] => Run.need (t.result.word? none)
  | .takeHandle var userData :: rest => do
      let data ← Run.need (vs.in? .ptr userData)
      t.run host ((var, .handle (data.as .handle)) :: vs) rest
  | .lookUp var handle :: rest => do
      let h ← Run.need (vs.handle? handle)
      let c := (← get).closures.get h
      t.run host ((var, .closure h c) :: vs) rest
  | .releaseAsync closure handle :: rest => do
      let (_, c) ← Run.need (vs.closure? closure)
      let h ← Run.need (vs.handle? handle)
      if c.scope = .async then Run.unregister h
      t.run host vs rest
  | .release userData :: rest => do
      let data ← Run.need (vs.in? .ptr userData)
      Run.unregister (data.as .handle)
      t.run host vs rest
  | .takeFunction var closure type :: rest => do
      let (h, c) ← Run.need (vs.closure? closure)
      match c.callable.filter (host.isOf type) with
      | some f => t.run host ((var, .found h f) :: vs) rest
      | none => return Result.fallbackWord
  | .call function args :: _ => do
      let (h, f) ← Run.need (vs.found? function)
      let args ← Run.need (args.mapM (t.reading? vs))
      Run.need (t.result.word? (← Run.invoke host h f args))

end Trampoline

/-! ## Native code -/

/-- A function of the file whose address native code is given. -/
inductive Entrance
  | trampoline (callback : String)
  | destroyNotify
deriving Repr, DecidableEq

/-- An argument as native code receives it. -/
inductive NativeArgument
  | word (bits : UInt64)
  | entrance (e : Entrance)
deriving Repr, DecidableEq

/-- How an argument is carried; an address takes a whole word. -/
def NativeArgument.carried (c : Carrier) : NativeArgument → NativeArgument
  | .word bits => .word (c.widen bits)
  | .entrance e => .entrance e

/-- A native function, which may enter the file; the answer is the word of its result. -/
abbrev NativeRoutine (α ν : Type) :=
  (Entrance → List UInt64 → Run α ν UInt64) → List NativeArgument → Run α ν UInt64

/-! ## Generated functions -/

/-- The scope that is written in a registration. -/
def scopeNamed? (text : String) : Option CallbackScope :=
  CallbackScope.all.find? fun s => Part.scopeName s = text

/-- Runs a statement around a call; the answer is the variables after it. -/
def Statement.run {α ν : Type} (arithmetic : Arithmetic) (vs : Variables α) :
    Statement → Run α ν (Variables α)
  | .register handle closure scope => do
      let f ← Run.need (vs.function? closure)
      let scope ← Run.need (scopeNamed? scope)
      return (handle, .handle (← Run.register arithmetic f scope)) :: vs
  | .unregister handle => do
      Run.unregister (← Run.need (vs.handle? handle))
      return vs
  | .remark _ => return vs
  | .copyText .. | .free _ | .fill .. | .writeBack .. => Run.undefined

/-- What native code receives for a slot. -/
def Slot.argument? {α : Type} (vs : Variables α) : Slot → Option NativeArgument
  | .value (.make c var) => (vs.in? c var).map fun s => .word s.bits
  | .handle var => (vs.handle? var).map fun h => .word (Introspect.Slot.of .handle h).bits
  | .destroyNotify => some (.entrance .destroyNotify)
  | .trampoline callback => some (.entrance (.trampoline callback))
  | _ => none

/-- What the run of a generated function depends on. -/
structure Routine where
  params : List String
  before : List Statement
  slots : List Slot
  symbol : String
  /-- How each argument is carried. -/
  carriers : List Carrier
  result : Carrier
  after : List Statement
  /-- The cell the answer is read from the slot of the result by. -/
  answer : Option Cell
deriving Repr, DecidableEq

/-- The routine of a call that uses no out block and answers with a number at most. -/
def Call.routine? (c : Call) : Option Routine := do
  guard c.block?.isNone
  let params ← c.analysis.function.parameters.toOption
  let result ← (Carrier.of c.analysis.function.returns).toOption
  let answer ← match c.results with
    | [] => some none
    | [(_, ⟨_, .cell slot cell⟩)] => if slot = c.analysis.resultVar then some (some cell) else none
    | _ => none
  return { params := c.params.map (·.var), before := c.before, slots := c.slots
           symbol := c.analysis.function.symbol, carriers := params.map (·.carrier), result
           after := c.after, answer }

/-- The generated functions and trampolines of a file. -/
structure Program where
  calls : List Call
  closures : List ClosureBinding

namespace Program

/-- The program that is written for a namespace. -/
def of (s : Scope) (start : Counters) : Program :=
  let items := (itemsFrom (Env.of s) 0 start s.space.infos).1
  { calls := items.filterMap fun
      | .function f site => some (Call.of (Env.of s) f site)
      | _ => none
    closures := items.filterMap fun
      | .callback cb (.closure u) => (ClosureBinding.of s cb u).toOption
      | _ => none }

/-- The function with this name that is of no container. -/
def function? (p : Program) (name : String) : Option Call :=
  p.calls.find? fun c =>
    c.analysis.site.container.isNone && hostName c.analysis.function false = name

/-- The closure type of a callback. -/
def closure? (p : Program) (callback : String) : Option ClosureBinding :=
  p.closures.find? fun b => b.callback.name = callback

variable {α ν : Type}

/-- Enters the file from native code. -/
def enter (p : Program) (host : Host α) : Entrance → List UInt64 → Run α ν UInt64
  | .trampoline callback, words => do
      let b ← Run.need (p.closure? callback)
      b.trampoline.run host (b.trampoline.bind words) b.body
  | .destroyNotify, words =>
      Binding.destroyNotify.run host (Binding.destroyNotify.bind words) destroyNotifyBody

/-- Runs a generated function with the values of its parameters. -/
def run (p : Program) (arithmetic : Arithmetic) (host : Host α)
    (natives : String → Option (NativeRoutine α ν)) (r : Routine) (args : List (Value α)) :
    Run α ν (Option Scalar) := do
  let vs ← r.before.foldlM (fun vs st => st.run arithmetic vs) (r.params.zip args)
  let passed ← Run.need (r.slots.mapM (·.argument? vs))
  let native ← Run.need (natives r.symbol)
  let word ← native (p.enter host) (r.carriers.zipWith NativeArgument.carried passed)
  let returned := r.result.deliver word {}
  let _ ← r.after.foldlM (fun vs st => st.run arithmetic vs) vs
  return r.answer.map fun c => ⟨c, returned.as c⟩

/-- Calls a generated function by its name. -/
def call (p : Program) (arithmetic : Arithmetic) (host : Host α)
    (natives : String → Option (NativeRoutine α ν)) (name : String) (args : List (Value α)) :
    Run α ν (Option Scalar) := do
  let r ← Run.need ((p.function? name).bind (·.routine?))
  p.run arithmetic host natives r args

end Program

end Introspect.Binding
