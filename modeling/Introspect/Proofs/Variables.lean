import Introspect.Proofs.Parts
import Introspect.Proofs.Tables

/-!
# Variables of parameters

A length that is filled in, a length that is set after the call and the parameter itself are written
at different points, each with the variables as they are by then. They all speak of the same
variable, because every argument gets its own before anything else is given out, and whatever is
given out later is recorded apart from the variables of parameters.

The variables under one name differ by their number, which grows with every one that is given out.
So no two handles are the same.
-/

namespace Introspect.Naming

/-- A number can be read back from its digits. -/
theorem number_inj {k l : Nat} (h : (toString k).toList = (toString l).toList) : k = l := by
  rw [← Nat.ofDigitChars_ten_toDigits (n := k), ← Nat.ofDigitChars_ten_toDigits (n := l),
    ← Nat.toList_repr, ← Nat.toList_repr]
  exact congrArg (fun ds => Nat.ofDigitChars 10 ds 0) h

namespace Locals

theorem param?_congr {l l' : Locals} (h : l.params = l'.params) (i : Nat) :
    l.param? i = l'.param? i := by
  rw [param?, param?, h]

/-- A variable is spelled with its own number. -/
theorem spelled_inj {name : String} {k l : Nat} (h : spelled name k = spelled name l) : k = l := by
  have hne : ∀ n : Nat, name ≠ name ++ toString n := by
    intro n hn
    have hlen := congrArg (fun s : String => s.toList.length) hn
    have hdigits : 0 < (toString n).toList.length := by
      rw [show toString n = n.repr from rfl, Nat.toList_repr]
      exact Nat.length_toDigits_pos
    simp only [String.toList_append, List.length_append] at hlen
    omega
  unfold spelled at h
  split at h <;> split at h
  · next hk hl => rw [hk, hl]
  · exact absurd h (hne l)
  · exact absurd h.symm (hne k)
  · have hlist := congrArg String.toList h
    rw [String.toList_append, String.toList_append, List.append_cancel_left_eq] at hlist
    exact number_inj hlist

theorem alloc_fst (l : Locals) (name : String) :
    (l.alloc name).1 = spelled name (l.nextNumber name) := rfl

theorem nextNumber_alloc (l : Locals) (name : String) :
    (l.alloc name).2.nextNumber name = l.nextNumber name + 1 := by
  have hgiven : (l.alloc name).2.given = (name, l.nextNumber name) :: l.given := rfl
  rw [nextNumber, hgiven, List.lookup_cons_self]

end Locals

end Introspect.Naming

namespace Introspect.Binding

open Naming (Locals)

/-! ## Parameters keep their variables -/

theorem Input.params_of {s : Scope} {t : NativeType} {var : String} {nullable : Bool}
    {transfer : Transfer} {locals : Locals} :
    (Input.of s t var nullable transfer locals).2.params = locals.params := by
  unfold Input.of
  cases t.tag with
  | interface => cases t.reference <;> rfl
  | array => cases ArrayHost.of s t <;> rfl
  | _ => rfl

theorem Output.params_of {s : Scope} {t : NativeType} {slot : String} {length : ArrayLength}
    {o : OutputOptions} {locals : Locals} :
    (Output.of s t slot length o locals).2.params = locals.params := by
  unfold Output.of
  cases t.tag with
  | interface => cases t.reference <;> rfl
  | array =>
      dsimp only [array]
      cases ArrayHost.of s t with
      | view type path => cases length <;> rfl
      | pointer => rfl
      | unmapped what => rfl
  | _ => rfl

namespace Part

theorem params_exchange (an : Analysis) (i : Nat) (a : Argument) (value : String)
    (locals : Locals) : (exchange an i a value locals).2.params = locals.params :=
  Output.params_of.trans Input.params_of

theorem params_inout {an : Analysis} {i : Nat} {a : Argument} {var : String} {locals : Locals} :
    (inout an i a var locals).2.params = locals.params := by
  rcases inout_cases an i a var locals with h | ⟨value, -, h | ⟨-, h⟩⟩ <;> rw [h]
  · exact params_exchange an i a value locals
  · exact params_exchange an i a value locals

theorem params_of {an : Analysis} {i : Nat} {a : Argument} {locals : Locals} :
    (of an i a locals).2.params = locals.params := by
  unfold of
  cases an.role i a with
  | hidden h => cases h <;> rfl
  | input => exact Input.params_of
  | output => exact Output.params_of
  | inout => exact params_inout
  | self | userData handle | release | callback => rfl

theorem params_allFrom {an : Analysis} {args : List Argument} :
    ∀ (i : Nat) (locals : Locals), (allFrom an i locals args).2.params = locals.params := by
  induction args with
  | nil => intro i locals; rfl
  | cons a rest ih =>
      intro i locals
      rw [allFrom]
      exact (ih (i + 1) _).trans params_of

end Part

/-! ## Every argument has a variable -/

namespace Analysis

theorem keys_foldl_register {args : List Argument} : ∀ (k : Nat) (l : Locals),
    ((args.zipIdx k).foldl (fun (l : Locals) (a, i) => (l.register i a.name).2) l).params.map
        Prod.fst =
      (List.range' k args.length).reverse ++ l.params.map Prod.fst := by
  induction args with
  | nil => intro k l; rfl
  | cons a rest ih =>
      intro k l
      rw [List.zipIdx_cons, List.foldl_cons, ih, List.length_cons, List.range'_succ,
        List.reverse_cons, List.append_assoc]
      rfl

theorem exists_param {f : Function} {i : Nat} {a : Argument} (ha : f.args[i]? = some a) :
    ∃ var, (paramLocals f).param? i = some var := by
  have hi := (List.getElem?_eq_some_iff.mp ha).1
  refine exists_lookup ?_
  rw [paramLocals, keys_foldl_register]
  exact List.mem_append_left _ (List.mem_reverse.mpr (List.mem_range'_1.mpr ⟨by omega, by omega⟩))

theorem params_receiverOf (f : Function) (site : Site) (selfFirst : Bool) (locals : Locals) :
    (receiverOf f site selfFirst locals).2.params = locals.params := by
  unfold receiverOf
  split
  · rfl
  · split <;> rfl

theorem params_start (e : Env) (f : Function) (site : Site) :
    (start e f site).2.params = (paramLocals f).params :=
  params_receiverOf f site (takesSelfFirst e f site) (paramLocals f)

end Analysis

end Introspect.Binding
