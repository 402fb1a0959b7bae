import Introspect.Binding.Call
import Introspect.Text.Quoted

/-!
# Generated functions

The text of a call: the signature, the way to the invoker with an early return, the out block, what
comes before the call, the argument vector, the call, what comes after it, the check for an error,
and the values read from the slots.
-/

namespace Introspect.Binding

open Source (Step Block)

/-- `Container.name` for a method, `name` for a function. -/
def identity (f : Function) (container : Option Container) : String :=
  match container with
  | some c => c.name ++ "." ++ f.name
  | none => f.name

/-- Names of functions that a file or a container has already. -/
def takenNames (inContainer : Bool) : List String :=
  if inContainer then ["get_type", "wrap_object"] else ["init", "destroy_notify"]

/-- The name of the generated function. -/
def hostName (f : Function) (inContainer : Bool) : String :=
  Naming.itemName (if (takenNames inContainer).contains f.name then f.name ++ "_f" else f.name)

/-- The note on an argument that is not simply an input. -/
def argumentNote (a : Argument) : Option String :=
  let notes := (if a.direction = .in then [] else [a.direction.name]) ++
    (if a.transfer = .nothing then [] else ["transfer " ++ a.transfer.name])
  if notes.isEmpty then none else some ("- `" ++ a.name ++ "`: " ++ ", ".intercalate notes)

namespace Lookup

/-- The expression that looks the invoker up. -/
def text (l : Lookup) : String :=
  "CONTEXT.invoker" ++ tuple
    [toString l.id, Text.quoted l.outer, Text.quoted l.inner, toString l.outerIndex,
      toString l.innerIndex, "gi::InfoType::" ++ l.kind.label,
      if l.directQuery then "gi::FindMethodFlags::NONE" else "gi::FindMethodFlags::NO_CALL_FIND"]

end Lookup

namespace Call

/-- A single value as it is, several in parentheses. -/
def oneOrTuple : List String → String
  | [one] => one
  | many => tuple many

/-- The host type of all values together. -/
def hostResult (c : Call) : String := oneOrTuple (c.results.map (·.2.host))

/-- The statement that returns early. -/
def earlyReturn (c : Call) : String :=
  match c.results with
  | [] => "return;"
  | rs => "return " ++ oneOrTuple (rs.map fun (_, o) => zeroValue o.host) ++ ";"

/-- Whether the generated function returns a result that may be an error. -/
def throws (c : Call) : Bool := c.analysis.function.flags.throws

/-- The comments above the function. -/
def remarks (c : Call) : List Step :=
  let f := c.analysis.function
  let notes := f.args.filterMap argumentNote
  [Step.line ("/// `" ++ f.symbol ++ "`")] ++
    (if notes.isEmpty then [] else Step.line "///" :: notes.map fun n => Step.line ("/// " ++ n)) ++
    (if f.deprecated then [Step.line "#[deprecated]"] else [])

/-- The first line of the function: its name, its parameters and what it returns. -/
def signature (c : Call) : String :=
  let self := match c.analysis.receiver with
    | .self => ["&self"]
    | _ => []
  let returns :=
    if c.throws then " -> Result<" ++ c.hostResult ++ ", gi::GiError>"
    else if c.results.isEmpty then ""
    else " -> " ++ c.hostResult
  "pub fn " ++ hostName c.analysis.function c.analysis.site.container.isSome ++
    tuple (self ++ c.params.map fun p => p.var ++ ": " ++ p.host) ++ returns ++ " \x7b"

/-- The way to the invoker. -/
def lookupSteps (c : Call) : List Step :=
  let ctx := if c.needsContext then "ctx" else "_"
  let pattern := "let " ++ tuple [ctx, c.analysis.invokerVar] ++ " = "
  let get := Lookup.text c.lookup
  if c.throws then [Step.line (pattern ++ get ++ "?;")]
  else
    [Step.opening (pattern ++ "match " ++ get ++ " \x7b"),
      Step.line "Ok(v) => v,",
      Step.opening "Err(err) => \x7b",
      Step.line "log::warn!(\"\x7b\x7d\", err);",
      Step.line c.earlyReturn,
      Step.closing "\x7d",
      Step.closing "\x7d;"]

/-- The blocks of slots, and the call. -/
def callSteps (c : Call) : List Step :=
  let an := c.analysis
  let noArgs := c.parts.isEmpty
  (match c.block? with
    | none => []
    | some block =>
        [Step.line ("let mut " ++ block ++ " = [gi::Argument::ZERO; " ++ toString an.outCount ++
          "];")]) ++
  c.before.map (fun s => Step.line s.text) ++
  (if noArgs then []
    else [Step.line ("let mut " ++ an.argsVar ++ " = [" ++
      ", ".intercalate (c.slots.map (·.text)) ++
      "];")]) ++
  (if an.hasResult then [Step.line ("let mut " ++ an.resultVar ++ " = gi::Argument::ZERO;")]
    else []) ++
  [Step.line ("unsafe " ++ braced (an.invokerVar ++ ".call" ++ tuple
    [if noArgs then "&mut []" else "&mut " ++ an.argsVar,
      if an.hasResult then "Some(&mut " ++ an.resultVar ++ ")" else "None",
      match c.block? with
      | none => "std::ptr::null_mut()"
      | some block => block ++ ".as_mut_ptr()"]) ++ ";")]

/-- The check for an error the callee left. -/
def errorSteps (c : Call) : List Step :=
  match c.analysis.errorSlot with
  | some k =>
      [Step.opening ("if let Some(err) = unsafe " ++
          braced ("gi::to_error(" ++ c.analysis.outPlace k ++ ".as_ptr())") ++ " \x7b"),
        Step.line "return Err(err);",
        Step.closing "\x7d"]
  | none => []

/-- The values, and the function's result. -/
def resultSteps (c : Call) : List Step :=
  let done (e : String) : Step := Step.line (if c.throws then "Ok(" ++ e ++ ")" else e)
  match c.results with
  | [] => if c.throws then [Step.line "Ok(())"] else []
  | [(_, o)] => [done o.value.expression]
  | many =>
      many.map (fun (var, o) => Step.line ("let " ++ var ++ " = " ++ o.value.expression ++ ";")) ++
        [done (tuple (many.map (·.1)))]

/-- All lines of the function, in an `impl` block when it is a method. -/
def steps (c : Call) : List Step :=
  let wrap (inner : List Step) : List Step :=
    match c.analysis.site.container with
    | some (_, container) =>
        [Step.opening ("impl " ++ container.name ++ " \x7b")] ++ inner ++ [Step.closing "\x7d"]
    | none => inner
  wrap (c.remarks ++ [Step.opening c.signature] ++ c.lookupSteps ++ c.callSteps ++
    c.after.map (fun s => Step.line s.text) ++ c.errorSteps ++ c.resultSteps ++
    [Step.closing "\x7d"])

end Call

/-- The block of a function at a call site. -/
def functionBlock (e : Env) (f : Function) (site : Site) : Block :=
  .ofSteps (Call.of e f site).steps

end Introspect.Binding
