import Introspect.Binding.Scope

/-!
# The namespace of the demonstration library

How the library is described, and the settings its bindings are written with.
-/

namespace Introspect.Demo

/-- A 32-bit integer by value. -/
def int : NativeType := .scalar .int32

/-- A truth value. -/
def boolean : NativeType := .scalar .boolean

/-- The pointer by which user data comes back. -/
def userData : Argument := { name := "user_data", type := .voidPointer }

/-- A number called `value`. -/
def value : Argument := { name := "value", type := int }

/-- The number a closure is called with in the end. -/
def x : Argument := { name := "x", type := int }

/-- A function of the host's, in a given scope. -/
def applyArgument (scope : CallbackScope) (closure destroy : Option Nat) : Argument :=
  { name := "func", type := .named .callback "ApplyFunc", scope, closure, destroy }

/-- The callbacks, and the functions that take them. -/
def callbackInfos : List Info :=
  [.callback { name := "ApplyFunc", args := [value, userData], returns := int },
    .callback { name := "Visitor", args := [value], returns := boolean }]

/-- The functions that take a closure, one for each scope. -/
def closureFunctions : List Function :=
  [{ name := "apply_twice", symbol := "demo_apply_twice"
     args := [applyArgument .call (some 1) none, userData, x], returns := int },
    { name := "defer", symbol := "demo_defer"
      args := [applyArgument .async (some 1) none, userData] },
    { name := "run_deferred", symbol := "demo_run_deferred", args := [x], returns := int },
    { name := "watch", symbol := "demo_watch"
      args := [applyArgument .notified (some 1) (some 2), { name := "data", type := .voidPointer },
        { name := "notify"
          type := (NativeType.named .callback "DestroyNotify").inNamespace "GLib" },
        x]
      returns := int },
    { name := "poke_watched", symbol := "demo_poke_watched", args := [x], returns := int }]

/-- Functions of numbers and texts, one of which can fail. -/
def textFunctions : List Function :=
  [{ name := "add", symbol := "demo_add"
     args := [{ name := "a", type := int }, { name := "b", type := int }], returns := int },
    { name := "shout", symbol := "demo_shout", args := [{ name := "text", type := .utf8 }]
      returns := .utf8, returnTransfer := .everything },
    { name := "greeting", symbol := "demo_greeting", returns := .utf8 },
    { name := "parse_int", symbol := "demo_parse_int", flags := { throws := true }
      args := [{ name := "text", type := .utf8 }, { value with direction := .out }]
      returns := boolean }]

/-- Functions of arrays, and one with a callback that is bound by hand. -/
def arrayFunctions : List Function :=
  [{ name := "visit_range", symbol := "demo_visit_range"
     args := [{ name := "n", type := int },
       { name := "visitor", type := .named .callback "Visitor" }]
     returns := int },
    { name := "sum", symbol := "demo_sum"
      args := [{ name := "values", type := .cArray int (some 1) false },
        { name := "n_values", type := int }]
      returns := int },
    { name := "split_words", symbol := "demo_split_words"
      args := [{ name := "text", type := .utf8 },
        { name := "n_words", direction := .out, type := int }]
      returns := .cArray .utf8 (some 1) true, returnTransfer := .everything },
    { name := "bump", symbol := "demo_bump", args := [{ value with direction := .inout }] }]

/-- A class with methods. -/
def counter : Container where
  name := "Counter"
  typeInit := some "demo_counter_get_type"
  methods :=
    [{ name := "new", symbol := "demo_counter_new", flags := { isConstructor := true }
       returns := .named .object "Counter", returnTransfer := .everything },
      { name := "increment", symbol := "demo_counter_increment", flags := { isMethod := true }
        args := [{ name := "by", type := int }] },
      { name := "get", symbol := "demo_counter_get", flags := { isMethod := true },
        returns := int },
      { name := "free", symbol := "demo_counter_free", flags := { isMethod := true } }]

/-- A class derived from the one above. -/
def labeledCounter : Container where
  name := "LabeledCounter"
  typeInit := some "demo_labeled_counter_get_type"
  parent := some "Counter"
  methods :=
    [{ name := "new", symbol := "demo_labeled_counter_new", flags := { isConstructor := true }
       args := [{ name := "label", type := .utf8 }]
       returns := .named .object "LabeledCounter", returnTransfer := .everything },
      { name := "label", symbol := "demo_labeled_counter_label", flags := { isMethod := true }
        returns := .utf8 }]

/-- An enumeration and a set of flags. -/
def enumerations : List Info :=
  [.enum { name := "Mood", values := [⟨"calm", 0⟩, ⟨"restless", 1⟩, ⟨"angry", 2⟩] },
    .flags { name := "Access", values := [⟨"read", 1⟩, ⟨"write", 2⟩] }]

/-- Functions of enumerations and flags, one left out by the settings and some with arguments that
go both ways. -/
def laterFunctions : List Function :=
  [{ name := "mood_of", symbol := "demo_mood_of", args := [{ name := "level", type := int }]
     returns := .named .enum "Mood" },
    { name := "can_write", symbol := "demo_can_write"
      args := [{ name := "access", type := .named .flags "Access" }], returns := boolean },
    { name := "legacy_reset", symbol := "demo_legacy_reset" },
    { name := "shout_in_place", symbol := "demo_shout_in_place"
      args := [{ name := "text", direction := .inout, transfer := .everything, type := .utf8 }] },
    { name := "replace_counter", symbol := "demo_replace_counter"
      args := [{ name := "counter", direction := .inout, transfer := .everything
                 type := .named .object "Counter" }] },
    { name := "apply_unpaired", symbol := "demo_apply_unpaired"
      args := [applyArgument .call none none, userData], returns := int }]

/-- The symbols, in the order they are described in. -/
def space : Namespace where
  name := "Demo"
  version := "1.0"
  cPrefix := some "demo"
  infos :=
    callbackInfos ++ textFunctions.map .function ++ closureFunctions.map .function ++
      arrayFunctions.map .function ++
      [.container .object counter, .container .object labeledCounter,
        .container .struct { name := "CounterClass" },
        .function
          { name := "make_counter", symbol := "demo_make_counter"
            args := [{ name := "labeled", type := boolean }], returns := .named .object "Counter"
            returnTransfer := .everything, mayReturnNull := true }] ++
      enumerations ++ laterFunctions.map .function ++
      [.constant { name := "ANSWER", value := some (.int 42) },
        .constant { name := "NAME", value := some (.text "demo") }]

/-- The namespace with its settings. -/
def scope : Scope where
  space := space
  config := { black := ["legacy_reset"], manualCallbacks := ["Visitor"] }

end Introspect.Demo
