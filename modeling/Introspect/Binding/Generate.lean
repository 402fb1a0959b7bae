import Introspect.Binding.Types
import Introspect.Source.File
import Introspect.Source.Stats

/-!
# Bindings of a namespace

The symbols are walked in order. Every function takes the next call-site number, whether it is bound
or left out, and every type the next number for its runtime type, whether it gets one or not; so the
numbers depend on the walk alone, and the next namespace can go on where this one stopped.
-/

namespace Introspect.Binding

open Source (Step Block File Stats)

/-- A symbol of the namespace as it is to be written. -/
inductive Item
  | function (f : Function) (site : Site)
  /-- A function the settings leave out. -/
  | blackFunction (name : String)
  | callback (cb : Introspect.Callback) (kind : CallbackKind)
  | container (kind : ContainerKind) (c : Introspect.Container) (getType : Option UInt32)
  /-- A struct that only serves another type. -/
  | ignored (reason : String)
  | enumeration (e : Introspect.Enumeration) (isFlags : Bool) (getType : Option UInt32)
  | constant (c : Introspect.Constant)
deriving Repr, DecidableEq

/-- The numbers that the next call site and the next `get_type` function get. -/
structure Counters where
  function : UInt32 := 0
  getType : UInt32 := 0
deriving Repr, DecidableEq

/-- The name before a suffix, where the name has it. -/
def stripSuffix? (suffix name : String) : Option String :=
  if suffix.toList.isSuffixOf name.toList then
    some (String.ofList (name.toList.take (name.length - suffix.length)))
  else none

/-- Why a struct is ignored: it has no methods, and is named after a type of the namespace as its
private or class part. -/
def ignoredReason? (s : Scope) (c : Introspect.Container) (kind : ContainerKind) : Option String :=
  if kind = .struct && c.methods.isEmpty then
    [("Private", "private"), ("Class", "class")].findSome? fun (suffix, what) => do
      let owner ← stripSuffix? suffix c.name
      let k ← s.space.kindOf? owner
      return what ++ " struct " ++ c.name ++ ", type of " ++ owner ++ " is " ++ k.name
  else none

/-- The item of a function, which takes a number. -/
def functionItem (s : Scope) (f : Function) (index methodIndex : Nat)
    (container : Option (ContainerKind × Introspect.Container)) (n : Counters) : Item × Counters :=
  let name := identity f (container.map Prod.snd)
  let item : Item :=
    if s.config.isBlack name then .blackFunction name
    else .function f ⟨n.function, index, methodIndex, container⟩
  (item, { n with function := n.function + 1 })

/-- The number of a runtime type, for a type that has one and is not left out. -/
def takeGetType (s : Scope) (name : String) (typeInit : Option String) (n : Counters) :
    Option UInt32 × Counters :=
  (if typeInit.isNone || s.config.skipsGetType name then none else some n.getType,
    { n with getType := n.getType + 1 })

/-- The items of the methods from position `i` on. -/
def methodItems (s : Scope) (kind : ContainerKind) (c : Introspect.Container) (index i : Nat)
    (n : Counters) : List Function → List Item × Counters
  | [] => ([], n)
  | f :: rest =>
      let (item, n) := functionItem s f index i (some (kind, c)) n
      let (items, n) := methodItems s kind c index (i + 1) n rest
      (item :: items, n)

/-- The items of one symbol, with the counters behind it. -/
def infoItems (e : Env) (index : Nat) (info : Info) (n : Counters) : List Item × Counters :=
  let s := e.scope
  match info with
  | .function f =>
      let (item, n) := functionItem s f index 0 none n
      ([item], n)
  | .callback cb =>
      match e.callback? cb.name with
      | some kind => ([.callback cb kind], n)
      | none => ([], n)
  | .container kind c =>
      match ignoredReason? s c kind with
      | some reason => ([.ignored reason], n)
      | none =>
          let (getType, n) := takeGetType s c.name c.typeInit n
          let (items, n) := methodItems s kind c index 0 n c.methods
          (.container kind c getType :: items, n)
  | .enum en =>
      let (getType, n) := takeGetType s en.name en.typeInit n
      ([.enumeration en false getType], n)
  | .flags en =>
      let (getType, n) := takeGetType s en.name en.typeInit n
      ([.enumeration en true getType], n)
  | .constant c => ([.constant c], n)

/-- The items of the symbols from position `index` on. -/
def itemsFrom (e : Env) (index : Nat) (n : Counters) : List Info → List Item × Counters
  | [] => ([], n)
  | info :: rest =>
      let (here, n) := infoItems e index info n
      let (there, n) := itemsFrom e (index + 1) n rest
      (here ++ there, n)

namespace Item

/-- The lines of an item; `none` for a callback bound by the kind of another one of its name, when
it has no argument where that one has its user data. -/
def steps? (e : Env) : Item → Option (List Step)
  | .function f site => some (Call.of e f site).steps
  | .blackFunction name => some [.line ("// black function " ++ name)]
  | .callback cb kind => Callback.steps? e.scope cb kind
  | .container kind c getType => some (Container.steps e.scope c kind getType)
  | .ignored reason => some [.line ("// ignore " ++ reason)]
  | .enumeration en isFlags getType => some (Enumeration.steps en isFlags getType)
  | .constant c => some (Constant.steps c)

/-- Whether the item counts as a function. -/
def isFunction : Item → Bool
  | .function .. => true
  | _ => false

/-- The object types whose wrappers are registered at the start. -/
def wrapped? : Item → Option String
  | .container .object c (some _) => some c.name
  | _ => none

end Item

/-- The place of the runtime context, in front of everything else. -/
def contextSteps (s : Scope) : List Step :=
  [.line ("static CONTEXT: gi::ContextCell = gi::ContextCell::new(" ++ Text.quoted s.space.name ++
    ");")]

/-- The function that starts the binding and registers the wrappers of its objects. -/
def initSteps (s : Scope) (wrapped : List String) : List Step :=
  .line ("/// Initialize the `" ++ s.space.name ++
    "` binding with the repository resolving its symbols") ::
  group
    "pub fn init(repo: Arc<dyn gi::Repository>/*use:std::sync::Arc*/) -> &'static gi::Context"
    ([.line "let ctx = CONTEXT.init(repo);"] ++
      wrapped.map (fun name =>
        .line ("ctx.wrappers.register(" ++ name ++ "::get_type(), " ++ name ++
          "::wrap_object);")) ++
      [.line "ctx"])

/-- What one run makes of a namespace. -/
structure Generated where
  file : File
  stats : Stats
  next : Counters
deriving Repr, DecidableEq

/-- Writes the bindings of a namespace, its numbers starting from `start`. -/
def generate? (s : Scope) (start : Counters) : Option Generated := do
  let e := Env.of s
  let (items, next) := itemsFrom e 0 start s.space.infos
  let blocks ← items.mapM fun item => do
    return (item, Block.ofSteps (← item.steps? e))
  let stats := blocks.foldl (fun (st : Stats) (item, b) =>
    if item.isFunction then st.record b else st) {}
  let front := [contextSteps s, initSteps s (items.filterMap Item.wrapped?), destroyNotifySteps]
  let file := (front.map Block.ofSteps ++ blocks.map Prod.snd).foldl File.push {}
  return { file, stats, next }

end Introspect.Binding
