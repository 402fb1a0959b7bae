import Introspect.Descriptor.Type

/-!
# Arguments

One argument of a callable: its type, the way its value travels, who owns it afterwards, and for a
callback which other arguments carry its data and its release.
-/

namespace Introspect

/-- Which way a value goes. -/
inductive Direction
  | in | out | inout
deriving Repr, DecidableEq, Inhabited

/-- Every direction. -/
def Direction.all : List Direction := [.in, .out, .inout]

/-- The name in documents. -/
def Direction.name : Direction → String
  | .in => "in"
  | .out => "out"
  | .inout => "inout"

/-- What the receiver of a value comes to own. -/
inductive Transfer
  | nothing | container | everything
deriving Repr, DecidableEq, Inhabited

namespace Transfer

/-- Every transfer. -/
def all : List Transfer := [.nothing, .container, .everything]

/-- The name in documents. -/
def name : Transfer → String
  | .nothing => "nothing"
  | .container => "container"
  | .everything => "everything"

/-- The receiver releases the outer value. -/
def ownsContainer : Transfer → Bool
  | .nothing => false
  | .container | .everything => true

/-- The receiver releases the elements too. -/
def ownsElements : Transfer → Bool
  | .nothing | .container => false
  | .everything => true

end Transfer

/-- How long a callback handed to native code is used. -/
inductive CallbackScope
  | invalid
  /-- During the call only. -/
  | call
  /-- Until it has been invoked once. -/
  | async
  /-- Until its release has been called. -/
  | notified
deriving Repr, DecidableEq, Inhabited

/-- Every scope. -/
def CallbackScope.all : List CallbackScope := [.invalid, .call, .async, .notified]

/-- The name in documents. -/
def CallbackScope.name : CallbackScope → String
  | .invalid => "invalid"
  | .call => "call"
  | .async => "async"
  | .notified => "notified"

/-- An argument of a function or of a callback. -/
structure Argument where
  name : String
  direction : Direction := .in
  type : NativeType
  transfer : Transfer := .nothing
  callerAllocates : Bool := false
  nullable : Bool := false
  isOptional : Bool := false
  /-- The argument that carries a callback's data. -/
  closure : Option Nat := none
  /-- The argument that releases a callback. -/
  destroy : Option Nat := none
  scope : CallbackScope := .invalid
deriving Repr, DecidableEq, Inhabited

namespace Argument

/-- Arrays, structs and unions are laid out in memory the caller can provide. -/
def isAggregate (a : Argument) : Bool :=
  a.type.tag = .array ||
    match a.type.referenceKind with
    | some .struct | some .union => true
    | _ => false

/-- Whether the value travels through a slot of the out block. An aggregate the caller allocates
is an input: a plain pointer to the caller's memory. -/
def usesOutSlot (a : Argument) : Bool :=
  match a.direction with
  | .in => false
  | .inout => true
  | .out => !(a.callerAllocates && a.isAggregate)

/-- The argument positions this argument refers to. -/
def links (a : Argument) : List Nat :=
  a.closure.toList ++ a.destroy.toList ++ a.type.lengthArg.toList

end Argument

end Introspect
