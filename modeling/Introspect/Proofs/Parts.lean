import Introspect.Binding.Call

/-!
# The ways to pass an argument

Two kinds of arguments are passed in more than one way. A callback is a closure that the registry
takes, or a function that is written by hand, or it cannot be passed. A value passed by reference is
exchanged through its slot of the out block, or it cannot be.

What is known of a part by its statements is known of each of these ways, so they are told apart
here, with the conditions that each way is taken under.
-/

namespace Introspect.Binding

open Introspect.Naming

namespace Part

variable {an : Analysis} {i : Nat} {a : Argument} {var : String}

/-! ## Callbacks -/

/-- The part of a closure that is registered under a handle. -/
def closure (a : Argument) (var handle : String) : Part :=
  { slot := .trampoline (a.type.referenceName.getD "")
    param := some ⟨var, a.type.referenceName.getD ""⟩
    before := [.register handle var (scopeName a.scope)]
    after := if a.scope = .call then [.unregister handle] else [] }

/-- A closure that is given is registered under its handle. -/
theorem callback_of_handle {handle : String} (hclosure : Analysis.takesClosure an.env a = true)
    (hhandle : an.handles.lookup i = some handle) : callback an i a var = closure a var handle := by
  unfold Analysis.takesClosure at hclosure
  unfold callback
  split at hclosure
  · next k hk => simp only [hk, hhandle, closure]
  · cases hclosure

/-- Without a handle nothing is done for a callback: it is written by hand or cannot be passed. -/
theorem callback_of_no_handle
    (h : Analysis.takesClosure an.env a = false ∨ an.handles.lookup i = none) :
    callback an i a var = { slot := .trampoline (a.type.referenceName.getD "") } ∨
      ∃ reason ∈ ["no user data for ", "callback "], callback an i a var =
        todo var (.value (.unmapped (reason ++ a.type.referenceName.getD ""))) := by
  unfold callback
  dsimp only
  split
  · next k handle hk hhandle =>
      rcases h with h | h
      · rw [Analysis.takesClosure, hk] at h
        cases h
      · rw [hhandle] at h
        cases h
  · exact .inl rfl
  · exact .inr ⟨_, List.mem_cons_self, rfl⟩
  · exact .inr ⟨_, List.mem_cons_of_mem _ List.mem_cons_self, rfl⟩

theorem callback_cases (an : Analysis) (i : Nat) (a : Argument) (var : String) :
    (∃ handle, Analysis.takesClosure an.env a = true ∧ an.handles.lookup i = some handle ∧
      callback an i a var = closure a var handle) ∨
    callback an i a var = { slot := .trampoline (a.type.referenceName.getD "") } ∨
    ∃ reason ∈ ["no user data for ", "callback "], callback an i a var =
      todo var (.value (.unmapped (reason ++ a.type.referenceName.getD ""))) := by
  cases hclosure : Analysis.takesClosure an.env a with
  | false => exact .inr (callback_of_no_handle (.inl hclosure))
  | true =>
      cases hhandle : an.handles.lookup i with
      | none => exact .inr (callback_of_no_handle (.inr hhandle))
      | some handle => exact .inl ⟨handle, rfl, rfl, callback_of_handle hclosure hhandle⟩

/-! ## References -/

/-- The part of a reference whose value cannot be exchanged. -/
def unexchanged (a : Argument) (var : String) : Part :=
  { slot := .empty
    param := some ⟨var, todoType⟩
    before := [.remark ("TODO inout " ++ var ++ " " ++ a.type.describe)] }

/-- The part of a value that is exchanged through a place of the block. -/
def exchanged (place var : String) (v : Input) (o : Output) : Part :=
  { slot := .empty
    param := some ⟨var, "&mut " ++ o.host⟩
    before := v.before ++ [.fill place v.slot]
    writeBack := [.writeBack var o.value]
    after := v.after }

/-- A reference gives out no names, or those of an exchange, even one that comes to nothing. -/
theorem inout_cases (an : Analysis) (i : Nat) (a : Argument) (var : String) (locals : Locals) :
    inout an i a var locals = (unexchanged a var, locals) ∨
    ∃ value, behind? var a.type.tag = some value ∧
      (inout an i a var locals = (unexchanged a var, (exchange an i a value locals).2) ∨
        exchangeable (exchange an i a value locals).1.1 (exchange an i a value locals).1.2 = true ∧
          inout an i a var locals = (exchanged (an.outPlace ((an.outSlot? i).getD 0)) var
            (exchange an i a value locals).1.1 (exchange an i a value locals).1.2,
              (exchange an i a value locals).2)) := by
  unfold inout
  cases behind? var a.type.tag with
  | none => exact .inl rfl
  | some value =>
      refine .inr ⟨value, rfl, ?_⟩
      dsimp only
      split
      · next h => exact .inr ⟨h, rfl⟩
      · exact .inl rfl

end Part

end Introspect.Binding
