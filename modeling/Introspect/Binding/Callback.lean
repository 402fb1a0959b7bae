import Introspect.Binding.Crossing
import Introspect.Binding.Input
import Introspect.Binding.Output
import Introspect.Source.Block

/-!
# Callback types

A callback that carries a `user_data` pointer becomes a boxed closure: the pointer holds the
closure's handle, and a trampoline with the native signature finds the closure again. A callback
listed as manual gets a trampoline into a handler written by hand, and any other is a placeholder
type that says why.
-/

namespace Introspect.Binding

open Naming (Locals)
open Source (Step)

/-- How a callback is bound. -/
inductive CallbackKind
  /-- A closure, found through the argument at this position. -/
  | closure (userData : Nat)
  | manual
  | unsupported (reason : String)
deriving Repr, DecidableEq

namespace CallbackKind

/-- The position of the conventional `user_data` pointer. -/
def userDataIndex (args : List Argument) : Option Nat :=
  args.findIdx? fun a => a.name = "user_data" && a.type.tag = .void && a.type.isPointer

end CallbackKind

/-- A parameter of a trampoline, as native code passes it. -/
structure TrampolineParam where
  var : String
  cell : Cell
deriving Repr, DecidableEq

/-- The parameter, put into a slot so that it can be read like any other output. -/
def TrampolineParam.slot (p : TrampolineParam) : String := (SlotValue.make p.cell p.var).text

/-- The signature of a trampoline, on both sides. -/
structure Trampoline where
  params : List TrampolineParam
  result : Result
deriving Repr, DecidableEq

namespace Trampoline

/-- The parameters from position `i` on, or why there is none for one of them. -/
def paramsFrom (s : Scope) (i : Nat) (locals : Locals) :
    List Argument → Except String (List TrampolineParam × Locals)
  | [] => .ok ([], locals)
  | a :: rest =>
      if a.direction ≠ .in then .error (a.direction.name ++ " argument " ++ a.name)
      else
        match parameterCell? s a.type with
        | none => .error ("argument " ++ a.name ++ " of unmapped type")
        | some cell => do
            let (var, locals) := locals.register i a.name
            let (ps, locals) ← paramsFrom s (i + 1) locals rest
            return (⟨var, cell⟩ :: ps, locals)

/-- The signature of a callback, or why it has none. -/
def of (s : Scope) (cb : Callback) : Except String (Trampoline × Locals) := do
  let (params, locals) ← paramsFrom s 0 {} cb.args
  match Result.of? s cb.returns with
  | some result => return (⟨params, result⟩, locals)
  | none => .error "unmapped return type"

/-- The parameters and the result in the types of native code. -/
def signature (t : Trampoline) : String :=
  let params := tuple (t.params.map fun p => p.var ++ ": " ++ nativeType p.cell)
  if t.result.isVoid then params else params ++ " -> " ++ t.result.native

/-- What the host function gets for a parameter. -/
def hostParam (s : Scope) (a : Argument) (p : TrampolineParam) (locals : Locals) :
    Output × Locals :=
  Output.of s a.type p.slot (.of a.type none) ⟨a.transfer, a.nullable, true⟩ locals

/-- The host values of the parameters, that at `skip` left out, with their arguments. -/
def hostParams (s : Scope) (skip : Nat) (i : Nat) (locals : Locals) :
    List (Argument × TrampolineParam) → List (Argument × Output) × Locals
  | [] => ([], locals)
  | (a, p) :: rest =>
      if i = skip then hostParams s skip (i + 1) locals rest
      else
        let (o, locals) := hostParam s a p locals
        let (os, locals) := hostParams s skip (i + 1) locals rest
        ((a, o) :: os, locals)

end Trampoline

namespace CallbackKind

/-- How a callback is bound: with a closure type, unless its signature has no mapping, it is left to
be written by hand or it has no user data. -/
def classify (s : Scope) (cb : Callback) : CallbackKind :=
  match Trampoline.of s cb with
  | .error reason => .unsupported reason
  | .ok (t, locals) =>
      if s.config.isManualCallback cb.name then .manual
      else
        match userDataIndex cb.args with
        | none => .unsupported "callback without user data"
        | some u =>
            let hosts := (Trampoline.hostParams s u 0 locals (cb.args.zip t.params)).1
            match hosts.find? fun (_, o) => o.isTodo with
            | some (a, _) => .unsupported ("argument " ++ a.name ++ " has no host type")
            | none => .closure u

end CallbackKind

namespace Result

/-- The statement that leaves a trampoline early. -/
def giveUp (r : Result) : String :=
  if r.isVoid then "return;" else "return " ++ r.fallback ++ ";"

/-- The statement that ends a trampoline with what a call returns. -/
def ending (r : Result) (call : String) : String :=
  if r.isVoid then call ++ ";" else r.convert.apply call

end Result

/-- A statement of a trampoline that has the runtime context. -/
inductive TrampolineStatement
  /-- Takes the handle out of the user data. -/
  | takeHandle (var userData : String)
  /-- Looks up what is registered under a handle. -/
  | lookUp (var handle : String)
  /-- Forgets the handle of a closure that is called only once. -/
  | releaseAsync (closure handle : String)
  /-- Forgets the handle in the user data. -/
  | release (userData : String)
  /-- Takes the function out of a closure, or gives up where there is none of that type. -/
  | takeFunction (var closure type : String)
  /-- Calls a function and ends with what it returns. -/
  | call (function : String) (args : List SlotReading)
deriving Repr, DecidableEq

/-- The lines of a statement in a trampoline with this result. -/
def TrampolineStatement.steps (r : Result) : TrampolineStatement → List Step
  | .takeHandle var userData =>
      [Step.line ("let " ++ var ++ " = gi::handle_from_ptr(" ++ userData ++ ");")]
  | .lookUp var handle => [Step.line ("let " ++ var ++ " = ctx.closures.get(" ++ handle ++ ");")]
  | .releaseAsync closure handle =>
      [Step.opening ("if " ++ closure ++ ".scope() == gi::Scope::Async \x7b"),
        Step.line (Statement.unregister handle).text,
        Step.closing "\x7d"]
  | .release userData =>
      [Step.line (Statement.unregister ("gi::handle_from_ptr(" ++ userData ++ ")")).text]
  | .takeFunction var closure type =>
      [Step.opening ("let Some(" ++ var ++ ") = " ++ closure ++ ".callable::<" ++ type ++
          ">() else \x7b"),
        Step.line r.giveUp,
        Step.closing "\x7d;"]
  | .call function args => [Step.line (r.ending (function ++ tuple (args.map (·.expression))))]

/-- A closure type with all that its trampoline consists of. -/
structure ClosureBinding where
  callback : Callback
  trampoline : Trampoline
  /-- The parameter that carries the handle. -/
  userData : TrampolineParam
  hosts : List Output
  handle : String
  closure : String
  function : String
deriving Repr, DecidableEq

/-- Why a callback gets no closure type. -/
inductive CallbackError
  /-- The signature has no mapping. -/
  | unmapped
  /-- No argument stands where the user data is said to be. -/
  | misplaced
deriving Repr, DecidableEq

namespace ClosureBinding

/-- The binding of a callback whose user data stands at `u`. -/
def of (s : Scope) (cb : Callback) (u : Nat) : Except CallbackError ClosureBinding :=
  match Trampoline.of s cb with
  | .error _ => .error .unmapped
  | .ok (t, locals) =>
      let (hosts, locals) := Trampoline.hostParams s u 0 locals (cb.args.zip t.params)
      let (handle, locals) := locals.alloc "handle"
      let (closure, locals) := locals.alloc "closure"
      let (function, _) := locals.alloc "f"
      match t.params[u]? with
      | none => .error .misplaced
      | some userData =>
          .ok ⟨cb, t, userData, hosts.map Prod.snd, handle, closure, function⟩

/-- The result of the host function, behind an arrow; nothing when there is none. -/
def returnType (b : ClosureBinding) : String :=
  if b.trampoline.result.isVoid then "" else " -> " ++ b.trampoline.result.host

/-- What the body of the trampoline does. -/
def body (b : ClosureBinding) : List TrampolineStatement :=
  [.takeHandle b.handle b.userData.var,
    .lookUp b.closure b.handle,
    .releaseAsync b.closure b.handle,
    .takeFunction b.function b.closure b.callback.name,
    .call b.function (b.hosts.map (·.value))]

/-- The type of the closure, and its trampoline. -/
def steps (b : ClosureBinding) : List Step :=
  let name := b.callback.name
  let result := b.trampoline.result
  [Step.line ("/// Host closure of callback `" ++ name ++ "`")] ++
  (if b.callback.deprecated then [Step.line "#[deprecated]"] else []) ++
  [Step.line ("pub type " ++ name ++ " = Box<dyn Fn" ++ tuple (b.hosts.map (·.host)) ++
      b.returnType ++ " + Send + Sync>;"),
    Step.line "",
    Step.opening ("extern \"C\" fn " ++ Naming.trampoline name ++ b.trampoline.signature ++
      " \x7b"),
    Step.opening "let Ok(ctx) = CONTEXT.get() else \x7b",
    Step.line result.giveUp,
    Step.closing "\x7d;"] ++
  b.body.flatMap (·.steps result) ++
  [Step.closing "\x7d"]

end ClosureBinding

namespace Callback

/-- The trampoline into a handler written by hand. -/
def manualSteps (cb : Callback) (t : Trampoline) : List Step :=
  [Step.line ("/// Trampoline of callback `" ++ cb.name ++ "`, handled by hand"),
    Step.opening ("extern \"C\" fn " ++ Naming.trampoline cb.name ++ t.signature ++ " \x7b"),
    Step.line ("super::handle_" ++ Naming.camelToSnake cb.name ++ tuple (t.params.map (·.var))),
    Step.closing "\x7d"]

/-- The placeholder type of a callback that cannot be bound. -/
def placeholderSteps (cb : Callback) (reason : String) : List Step :=
  [Step.line ("/// Callback `" ++ cb.name ++ "`")] ++
  (if cb.deprecated then [Step.line "#[deprecated]"] else []) ++
  [Step.line ("pub type " ++ cb.name ++ " = " ++ todoType ++ todoMark reason ++ ";")]

/-- The block of a callback bound in a given way; `none` when it has no argument where its user data
is said to be. A signature without a mapping leaves the block empty. -/
def steps? (s : Scope) (cb : Callback) : CallbackKind → Option (List Step)
  | .closure u =>
      match ClosureBinding.of s cb u with
      | .ok b => some b.steps
      | .error .unmapped => some []
      | .error .misplaced => none
  | .manual =>
      match Trampoline.of s cb with
      | .ok (t, _) => some (manualSteps cb t)
      | .error _ => some []
  | .unsupported reason => some (placeholderSteps cb reason)

end Callback

/-- The function that releases a closure by its handle; every callback of a file shares it. -/
def destroyNotify : Trampoline := ⟨[⟨"data", .ptr⟩], ⟨none, "()", .same⟩⟩

/-- The only line that releases a closure whatever its scope is. -/
def destroyNotifyBody : List TrampolineStatement := [.release "data"]

/-- The trampoline that native code calls when it gives up a closure. -/
def destroyNotifySteps : List Step :=
  [Step.opening ("extern \"C\" fn destroy_notify" ++ destroyNotify.signature ++ " \x7b"),
    Step.opening "if let Ok(ctx) = CONTEXT.get() \x7b"] ++
  destroyNotifyBody.flatMap (·.steps destroyNotify.result) ++
  [Step.closing "\x7d",
    Step.closing "\x7d"]

end Introspect.Binding
