import Introspect.Binding.Callback
import Introspect.Native.Lookup

/-!
# Calls

How a native function is called from its binding. Every native argument gets one part: the slot it
is passed in, the parameter the host gives it by, what is done before and after the call, and the
value it leaves. First the arguments are looked at together: which of them use the out block, which
lengths the binding fills in by itself, and which arguments carry the data and the release of a
callback. Then each argument has a role, and its part follows from the role alone.
-/

namespace Introspect.Binding

open Naming (Locals)

/-- What bindings are written from: the scope, and how each callback of the namespace is bound. -/
structure Env where
  scope : Scope
  callbacks : List (String × CallbackKind)
deriving Repr, DecidableEq

namespace Env

/-- Of two callbacks with one name the later counts. -/
def of (s : Scope) : Env where
  scope := s
  callbacks := (s.space.infos.filterMap fun
    | .callback cb => some (cb.name, CallbackKind.classify s cb)
    | _ => none).reverse

/-- How a callback is bound; the last one of a name decides. -/
def callback? (e : Env) (name : String) : Option CallbackKind := e.callbacks.lookup name

end Env

/-- Where a function lives, and the number of its call site. -/
structure Site where
  id : UInt32
  /-- The position of the function or of its container in the namespace. -/
  index : Nat
  /-- The position of the method in its container. -/
  methodIndex : Nat := 0
  container : Option (ContainerKind × Container) := none
deriving Repr, DecidableEq

/-- Where the instance of a call comes from. -/
inductive Receiver
  | none
  /-- The wrapper the function is a method of. -/
  | self
  /-- A pointer among the parameters: the function is a method of no known container. -/
  | pointer (var : String)
deriving Repr, DecidableEq

/-- How the binding fills in a length by itself. -/
inductive HiddenLength
  /-- From the array given at this position. -/
  | fromArray (array : Nat)
  /-- The callee writes it into the out block. -/
  | outSlot
deriving Repr, DecidableEq

/-- What is known of all arguments before the call is laid out. -/
structure Analysis where
  env : Env
  function : Function
  site : Site
  receiver : Receiver
  /-- The first argument is the instance. -/
  selfFirst : Bool
  /-- The slot of the out block that each argument uses. -/
  outSlots : List (Option Nat)
  hidden : List (Nat × HiddenLength) := []
  /-- The callback whose data an argument carries. -/
  dataOf : List (Nat × Nat) := []
  /-- The callback whose release an argument is. -/
  releaseOf : List (Nat × Nat) := []
  /-- The variable of each callback's handle. -/
  handles : List (Nat × String) := []
  invokerVar : String
  outVar : String
  argsVar : String
  resultVar : String
deriving Repr, DecidableEq

/-! ## Analysis -/

/-- A pointer to nothing in particular. -/
def isUserData (a : Argument) : Bool := a.type.tag = .void && a.type.isPointer

/-- A number by value, such as a length. -/
def isLength (a : Argument) : Bool := !a.type.isPointer && (numericCell? a.type.tag).isSome

/-- An argument of a callback type. -/
def isCallback (s : Scope) (a : Argument) : Bool :=
  a.type.tag = .interface && s.kindOf? a.type = some .callback

/-- A leading pointer to the container itself makes a function a method. -/
def isSelfArgument (s : Scope) (c : Container) (a : Argument) : Bool :=
  a.direction = .in && a.type.isPointer && a.type.tag = .interface &&
    a.type.reference.any fun r => r.name = c.name && !s.isForeign r

/-- Numbers the arguments that use the out block, from `k` on. -/
def assignOutSlots (k : Nat) : List Argument → List (Option Nat)
  | [] => []
  | a :: rest => if a.usesOutSlot then some k :: assignOutSlots (k + 1) rest
      else none :: assignOutSlots k rest

/-- How the length that goes with an array at `owner` is filled in; the result of the function has
no position. -/
def hiddenLength? (args : List Argument) (selfFirst : Bool) (owner : Option Nat) (t : NativeType) :
    Option (Nat × HiddenLength) := do
  let index ← t.lengthArg
  let length ← args[index]?
  guard (t.tag = .array && owner ≠ some index && isLength length && !(index = 0 && selfFirst))
  let input := owner.filter fun i => (args[i]?).any fun a => !a.usesOutSlot
  match input with
  | some array => if length.direction = .in then some (index, .fromArray array) else none
  | none =>
      if length.direction = .out && length.usesOutSlot then some (index, .outSlot) else none

/-- The arrays of a function: its arguments and then its result. -/
def arrayOwners (f : Function) : List (Option Nat × NativeType) :=
  (f.args.zipIdx.map fun (a, i) => (some i, a.type)) ++ [(none, f.returns)]

/-- The lengths that are filled in; the first array to claim one decides. -/
def hiddenLengths (f : Function) (selfFirst : Bool) : List (Nat × HiddenLength) :=
  (arrayOwners f).foldl (fun found (owner, t) =>
    match hiddenLength? f.args selfFirst owner t with
    | some (index, h) => if (found.lookup index).isSome then found else found ++ [(index, h)]
    | none => found) []

namespace Analysis

/-- How the callback type of an argument is bound; other namespaces bind their own. -/
def callbackKind? (e : Env) (a : Argument) : Option CallbackKind := do
  let r ← a.type.reference
  guard (a.type.tag = .interface && e.scope.kind r = .callback && !e.scope.isForeign r)
  e.callback? r.name

/-- Whether the argument's type is bound as a closure. -/
def takesClosure (e : Env) (a : Argument) : Bool :=
  match callbackKind? e a with
  | some (.closure _) => true
  | _ => false

/-- Pairs the callback at `i` with the arguments it names, unless its data is taken already. -/
def pair (f : Function) (st : Analysis × Locals) (a : Argument) (i : Nat) : Analysis × Locals :=
  let (an, locals) := st
  if !takesClosure an.env a then st
  else
    match a.closure.filter fun j => j ≠ i && (f.args[j]?).any isUserData with
    | none => st
    | some j =>
        if (an.dataOf.lookup j).isSome then st
        else
          let (handle, locals) := locals.alloc "handle"
          let release := (a.destroy.filter fun d => d ≠ i && d ≠ j).map fun d => (d, i)
          ({ an with
              dataOf := (j, i) :: an.dataOf
              releaseOf := release.toList ++ an.releaseOf
              handles := (i, handle) :: an.handles }, locals)

/-- Whether the function is a method by its first argument: one of a container that is given neither
as a method nor as a constructor. -/
def takesSelfFirst (e : Env) (f : Function) (site : Site) : Bool :=
  match site.container, f.args with
  | some (_, c), first :: _ =>
      !f.flags.isMethod && !f.flags.isConstructor && isSelfArgument e.scope c first
  | _, _ => false

/-- The instance of the call, which may need a variable. -/
def receiverOf (f : Function) (site : Site) (selfFirst : Bool) (locals : Locals) :
    Receiver × Locals :=
  if f.flags.isMethod && site.container.isNone then
    let (var, locals) := locals.alloc "instance"
    (.pointer var, locals)
  else if site.container.isSome && (f.flags.isMethod || selfFirst) then (.self, locals)
  else (.none, locals)

/-- The variables of the parameters. -/
def paramLocals (f : Function) : Locals :=
  f.args.zipIdx.foldl (fun (l : Locals) (a, i) => (l.register i a.name).2) {}

/-- What is known before callbacks are paired, and the variables given out. -/
def start (e : Env) (f : Function) (site : Site) : Analysis × Locals :=
  let selfFirst := takesSelfFirst e f site
  let (receiver, locals) := receiverOf f site selfFirst (paramLocals f)
  let (invokerVar, locals) := locals.alloc "iv"
  let (outVar, locals) := locals.alloc "out_args"
  let (argsVar, locals) := locals.alloc "args"
  let (resultVar, locals) := locals.alloc "ret"
  ({ env := e, function := f, site, receiver, selfFirst
     outSlots := assignOutSlots 0 f.args
     hidden := hiddenLengths f selfFirst
     invokerVar, outVar, argsVar, resultVar }, locals)

/-- The function and its arguments looked at as a whole, and the variables given out. -/
def of (e : Env) (f : Function) (site : Site) : Analysis × Locals :=
  f.args.zipIdx.foldl (fun st (a, i) => pair f st a i) (start e f site)

/-- The number of slots in the out block without that for an error. -/
def valueSlots (an : Analysis) : Nat := (an.outSlots.filter Option.isSome).length

/-- The slot of the out block that an error is written to. -/
def errorSlot (an : Analysis) : Option Nat :=
  if an.function.flags.throws then some an.valueSlots else none

/-- How many slots the out block has, the one for an error included. -/
def outCount (an : Analysis) : Nat := an.valueSlots + an.function.flags.throws.toNat

/-- The slot of the out block that an argument is read from. -/
def outSlot? (an : Analysis) (i : Nat) : Option Nat := (an.outSlots[i]?).join

/-- A slot of the out block, as the lines of the call spell it. -/
def outPlace (an : Analysis) (k : Nat) : String := an.outVar ++ "[" ++ toString k ++ "]"

/-- The container's own type is constructed. -/
def constructed? (an : Analysis) : Option Container :=
  if an.function.flags.isConstructor then an.site.container.map Prod.snd else none

/-- Whether the function returns what the native one returns. -/
def hasResult (an : Analysis) : Bool := !an.function.skipReturn && !an.function.returns.isVoid

/-- Where the length carried by the argument at `index` is found after the call. -/
def lengthPlace? (an : Analysis) (locals : Locals) (index : Nat) : Option LengthPlace := do
  let a ← an.function.args[index]?
  let cell ← numericCell? a.type.tag
  match an.outSlot? index with
  | some k => some (.outSlot an.outVar k cell)
  | none => (locals.param? index).map .parameter

/-- Where the length of an array is found after the call. -/
def arrayLength (an : Analysis) (locals : Locals) (t : NativeType) : ArrayLength :=
  .of t (if t.tag = .array then t.lengthArg.bind (an.lengthPlace? locals) else none)

end Analysis

/-! ## Roles -/

/-- What an argument is to the binding. -/
inductive Role
  /-- The instance, in its own place among the arguments. -/
  | self
  | hidden (length : HiddenLength)
  /-- Carries the handle of a closure. -/
  | userData (handle : String)
  /-- Releases a closure. -/
  | release
  | callback
  | input
  | output
  | inout
deriving Repr, DecidableEq

/-- The part an argument plays. The instance comes first, then what stands for another argument,
then the pieces of a closure, and only then the direction. -/
def Analysis.role (an : Analysis) (i : Nat) (a : Argument) : Role :=
  if i = 0 && an.selfFirst then .self
  else
    match an.hidden.lookup i with
    | some h => .hidden h
    | none =>
        match an.dataOf.lookup i with
        | some callback => .userData ((an.handles.lookup callback).getD "")
        | none =>
            if (an.releaseOf.lookup i).isSome then .release
            else
              match a.direction with
              | .in => if isCallback an.env.scope a then .callback else .input
              | .out => if a.usesOutSlot then .output else .input
              | .inout => .inout

/-! ## Parts -/

/-- One slot of the argument vector. -/
inductive Slot
  | self
  | value (v : SlotValue)
  /-- The length of an array among the parameters. -/
  | length (cell : Cell) (array : String)
  /-- Replaced by a place in the out block. -/
  | empty
  | handle (var : String)
  | destroyNotify
  | trampoline (callback : String)
deriving Repr, DecidableEq

/-- The expression that is passed in the position. -/
def Slot.text : Slot → String
  | .self => "gi::Argument::from_ptr(self.p)"
  | .value v => v.text
  | .length cell array =>
      "gi::Argument::from_" ++ cell.name ++ "(" ++ array ++ ".len as " ++ cell.name ++ ")"
  | .empty => "gi::Argument::ZERO"
  | .handle var => "gi::Argument::from_handle(" ++ var ++ ")"
  | .destroyNotify => "gi::Argument::from_usize(destroy_notify as usize)"
  | .trampoline callback =>
      "gi::Argument::from_usize(" ++ Naming.trampoline callback ++ " as usize)"

/-- A parameter of the generated function. -/
structure Param where
  var : String
  host : String
deriving Repr, DecidableEq

/-- All that one native argument adds to the call. -/
structure Part where
  slot : Slot
  param : Option Param := none
  before : List Statement := []
  writeBack : List Statement := []
  after : List Statement := []
  result : Option (String × Output) := none
deriving Repr, DecidableEq

namespace Part

/-- Whether the statement needs the registry of closures, and with it the runtime context. -/
def registers : Statement → Bool
  | .register .. => true
  | _ => false

/-- The part refers to the runtime context. -/
def needsContext (p : Part) : Bool :=
  p.before.any registers || p.result.any fun (_, o) => o.value.needsContext

/-- An input, with the lines that convert it. -/
def input (e : Env) (a : Argument) (var : String) (locals : Locals) : Part × Locals :=
  let (v, locals) := Input.of e.scope a.type var a.nullable a.transfer locals
  ({ slot := .value v.slot, param := some ⟨var, v.host⟩, before := v.before, after := v.after },
    locals)

/-- A parameter that takes no value yet. -/
def todo (var : String) (slot : Slot) : Part := { slot, param := some ⟨var, todoType⟩ }

/-- The lifetime of a closure, as the runtime library spells it. -/
def scopeName : CallbackScope → String
  | .invalid => "gi::Scope::Invalid"
  | .call => "gi::Scope::Call"
  | .async => "gi::Scope::Async"
  | .notified => "gi::Scope::Notified"

/-- A callback. A closure is registered under its handle, and given up after the call when it was
for the call only. -/
def callback (an : Analysis) (i : Nat) (a : Argument) (var : String) : Part :=
  let name := a.type.referenceName.getD ""
  match Analysis.callbackKind? an.env a, an.handles.lookup i with
  | some (.closure _), some handle =>
      { slot := .trampoline name
        param := some ⟨var, name⟩
        before := [.register handle var (scopeName a.scope)]
        after := if a.scope = .call then [.unregister handle] else [] }
  | some .manual, _ => { slot := .trampoline name }
  | some (.closure _), none => todo var (.value (.unmapped ("no user data for " ++ name)))
  | _, _ => todo var (.value (.unmapped ("callback " ++ name)))

/-- An output, read from its slot of the out block. -/
def output (an : Analysis) (i : Nat) (a : Argument) (var : String) (locals : Locals) :
    Part × Locals :=
  let place := an.outPlace ((an.outSlot? i).getD 0)
  let length := an.arrayLength locals a.type
  let (o, locals) := Output.of an.env.scope a.type place length
    ⟨a.transfer, a.nullable, false⟩ locals
  ({ slot := .empty, result := some (var, o) }, locals)

/-- What a mutable reference stands for where a value is passed; none for a value that is converted
with lines of its own. -/
def behind? (var : String) : Tag → Option String
  | .utf8 | .filename | .interface => some var
  | .array | .glist | .gslist | .ghash | .error => none
  | _ => some ("*" ++ var)

/-- The input and the output that a reference to a host value needs. -/
def exchange (an : Analysis) (i : Nat) (a : Argument) (value : String) (locals : Locals) :
    (Input × Output) × Locals :=
  let place := an.outPlace ((an.outSlot? i).getD 0)
  let (v, locals) := Input.of an.env.scope a.type value false a.transfer locals
  let (o, locals) := Output.of an.env.scope a.type place .unknown ⟨a.transfer, false, true⟩ locals
  ((v, o), locals)

/-- Whether a value can go in and come back: both ways are mapped, and neither may be missing. -/
def exchangeable (v : Input) (o : Output) : Bool :=
  v.host ≠ todoType && !o.isTodo && !"Option".toList.isPrefixOf v.host.toList

/-- A value passed by reference. It fills its slot of the out block before the call and is read
back from there. -/
def inout (an : Analysis) (i : Nat) (a : Argument) (var : String) (locals : Locals) :
    Part × Locals :=
  let failed : Part :=
    { slot := .empty
      param := some ⟨var, todoType⟩
      before := [.remark ("TODO inout " ++ var ++ " " ++ a.type.describe)] }
  match behind? var a.type.tag with
  | none => (failed, locals)
  | some value =>
      let ((v, o), locals) := exchange an i a value locals
      if exchangeable v o then
        let place := an.outPlace ((an.outSlot? i).getD 0)
        ({ slot := .empty
           param := some ⟨var, "&mut " ++ o.host⟩
           before := v.before ++ [.fill place v.slot]
           writeBack := [.writeBack var o.value]
           after := v.after }, locals)
      else (failed, locals)

/-- What is written for one argument, by the part it plays. -/
def of (an : Analysis) (i : Nat) (a : Argument) (locals : Locals) : Part × Locals :=
  let var := (locals.param? i).getD a.name
  match an.role i a with
  | .self => ({ slot := .self }, locals)
  | .hidden (.fromArray array) =>
      ({ slot := .length ((numericCell? a.type.tag).getD .i32) ((locals.param? array).getD "") },
        locals)
  | .hidden .outSlot => ({ slot := .empty }, locals)
  | .userData handle => ({ slot := .handle handle }, locals)
  | .release => ({ slot := .destroyNotify }, locals)
  | .callback => (callback an i a var, locals)
  | .input => input an.env a var locals
  | .output => output an i a var locals
  | .inout => inout an i a var locals

/-- The parts of the arguments from position `i` on. -/
def allFrom (an : Analysis) (i : Nat) (locals : Locals) : List Argument → List Part × Locals
  | [] => ([], locals)
  | a :: rest =>
      let (p, locals) := of an i a locals
      let (ps, locals) := allFrom an (i + 1) locals rest
      (p :: ps, locals)

/-- The part of an instance that stands before the arguments. -/
def receiver (an : Analysis) : List Part :=
  match an.receiver with
  | .none => []
  | .self => if an.selfFirst then [] else [{ slot := .self }]
  | .pointer var => [{ slot := .value (.make .ptr var), param := some ⟨var, pointerType⟩ }]

/-- The part of the place for an error. -/
def error (an : Analysis) : List Part :=
  if an.function.flags.throws then [{ slot := .empty }] else []

end Part

/-- All that the lines of one function are written from. -/
structure Call where
  analysis : Analysis
  /-- One for each native argument, in order. -/
  parts : List Part
  /-- What the function returns, with its variable. -/
  result : Option (String × Output)
deriving Repr, DecidableEq

namespace Call

/-- The returned value. A constructor yields its container, whatever type it declares. -/
def resultOf (an : Analysis) (locals : Locals) : Option (String × Output) :=
  if !an.hasResult then none
  else
    let (o, locals) : Output × Locals :=
      match an.constructed? with
      | some c => (⟨c.name, .wrapped c.name an.resultVar⟩, locals)
      | none =>
          Output.of an.env.scope an.function.returns an.resultVar
            (an.arrayLength locals an.function.returns)
            ⟨an.function.returnTransfer, an.function.mayReturnNull, false⟩ locals
    some ((locals.alloc "result").1, o)

/-- The call of a function. The names of the receiver and of the parameters are given out before any
other. -/
def of (e : Env) (f : Function) (site : Site) : Call :=
  let (an, locals) := Analysis.of e f site
  let (parts, locals) := Part.allFrom an 0 locals f.args
  { analysis := an
    parts := Part.receiver an ++ parts ++ Part.error an
    result := resultOf an locals }

/-- What is passed, position by position. -/
def slots (c : Call) : List Slot := c.parts.map (·.slot)

/-- The parameters of the generated function. -/
def params (c : Call) : List Param := c.parts.filterMap (·.param)

/-- The lines before the native call. -/
def before (c : Call) : List Statement := c.parts.flatMap (·.before)

/-- After the call references are written back first, then memory is given up. -/
def after (c : Call) : List Statement :=
  c.parts.flatMap (·.writeBack) ++ c.parts.flatMap (·.after)

/-- The values the binding returns: the function's own, then those of its arguments. -/
def results (c : Call) : List (String × Output) := c.result.toList ++ c.parts.filterMap (·.result)

/-- Whether a line needs the runtime context, to register a closure or to wrap an object. -/
def needsContext (c : Call) : Bool :=
  c.parts.any Part.needsContext || c.result.any fun (_, o) => o.value.needsContext

/-- The variable of the out block, which is there when something goes through it. -/
def block? (c : Call) : Option String :=
  if c.analysis.outCount = 0 then none else some c.analysis.outVar

/-- How the native function is found again. -/
def lookup (c : Call) : Lookup :=
  let an := c.analysis
  match an.site.container with
  | some (kind, container) =>
      { id := an.site.id
        outer := container.name
        inner := an.function.name
        outerIndex := an.site.index
        innerIndex := an.site.methodIndex
        kind := kind.symbolKind
        directQuery := !an.env.scope.config.skipsCallFind container.name }
  | none =>
      { id := an.site.id
        outer := an.function.name
        outerIndex := an.site.index
        innerIndex := an.site.methodIndex
        kind := .function }

end Call

end Introspect.Binding
