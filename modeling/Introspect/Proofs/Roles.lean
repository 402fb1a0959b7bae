import Introspect.Proofs.Layout
import Introspect.Proofs.Representation

/-!
# Roles of arguments

A role is given on the strength of what was found out about all arguments together, and holds what
was found: the instance is a pointer, a length that is filled in is a number by value, and what
carries the data of a callback is a pointer to nothing in particular. Only the release of a callback
is taken on trust; nothing is asked of its type.

So each role but that one says how the argument is represented, or shows in its slot that it is not.
-/

namespace Introspect.Binding

open Naming (Locals)

/-! ## Lengths -/

/-- What stands behind the ways of filling in the length that `a` carries for the array at
`owner`. -/
def HiddenLength.Warranted (args : List Argument) (owner : Option Nat) (a : Argument) :
    HiddenLength → Prop
  | .fromArray m =>
      a.direction = .in ∧ owner = some m ∧ ∃ b, args[m]? = some b ∧ b.usesOutSlot = false
  | .outSlot => a.direction = .out ∧ a.usesOutSlot = true

/-- The length of the array of type `t` at `owner` is filled in for the argument `a` at `i`. -/
structure Fills (args : List Argument) (selfFirst : Bool) (owner : Option Nat) (t : NativeType)
    (i : Nat) (a : Argument) (h : HiddenLength) : Prop where
  array : t.tag = .array
  length : t.lengthArg = some i
  other : owner ≠ some i
  argument : args[i]? = some a
  number : isLength a = true
  notSelf : ¬ (i = 0 ∧ selfFirst = true)
  warranted : h.Warranted args owner a

theorem fills_of_hiddenLength {args : List Argument} {selfFirst : Bool} {owner : Option Nat}
    {t : NativeType} {i : Nat} {h : HiddenLength}
    (hlen : hiddenLength? args selfFirst owner t = some (i, h)) :
    ∃ a, Fills args selfFirst owner t i a h := by
  unfold hiddenLength? at hlen
  obtain ⟨index, hindex, hlen⟩ := Option.bind_eq_some_iff.mp hlen
  obtain ⟨a, ha, hlen⟩ := Option.bind_eq_some_iff.mp hlen
  obtain ⟨_, hguard, hlen⟩ := Option.bind_eq_some_iff.mp hlen
  have hconditions : (decide (t.tag = .array) && decide (owner ≠ some index) && isLength a &&
      !(decide (index = 0) && selfFirst)) = true := by
    unfold guard at hguard
    split at hguard
    · assumption
    · cases hguard
  simp only [Bool.and_eq_true, decide_eq_true_eq, Bool.not_eq_true', Bool.and_eq_false_imp]
    at hconditions
  obtain ⟨⟨⟨htag, hother⟩, hnumber⟩, hself⟩ := hconditions
  -- Whether taken from the array or from a slot, a length is filled in under its own index.
  have hfound : i = index ∧ h.Warranted args owner a := by
    dsimp only at hlen
    split at hlen
    · next m hinput =>
        split at hlen
        · next hdir =>
            cases hlen
            obtain ⟨howner, hslot⟩ := Option.filter_eq_some_iff.mp hinput
            obtain ⟨b, hb, huses⟩ := (Option.any_eq_true _ _).mp hslot
            exact ⟨rfl, hdir, howner, b, hb, (Bool.not_eq_true' _).mp huses⟩
        · cases hlen
    · split at hlen
      · next hdir =>
          cases hlen
          rw [Bool.and_eq_true, decide_eq_true_eq] at hdir
          exact ⟨rfl, hdir⟩
      · cases hlen
  obtain ⟨rfl, hwarranted⟩ := hfound
  refine ⟨a, htag, hindex, hother, ha, hnumber, ?_, hwarranted⟩
  rintro ⟨hzero, hfirst⟩
  rw [hself hzero] at hfirst
  cases hfirst

/-- Every length that is filled in belongs to an array. -/
theorem exists_owner_of_mem {f : Function} {selfFirst : Bool} {i : Nat} {h : HiddenLength}
    (hmem : (i, h) ∈ hiddenLengths f selfFirst) :
    ∃ owner ∈ arrayOwners f, hiddenLength? f.args selfFirst owner.1 owner.2 = some (i, h) := by
  revert hmem
  unfold hiddenLengths
  refine List.foldlRecOn (motive := fun found => (i, h) ∈ found → ∃ owner ∈ arrayOwners f,
    hiddenLength? f.args selfFirst owner.1 owner.2 = some (i, h)) _ _ ?_ ?_
  · intro hmem
    cases hmem
  · intro found ih owner howner hmem
    dsimp only at hmem
    split at hmem
    · next index h' hlen =>
        split at hmem
        · exact ih hmem
        · rcases List.mem_append.mp hmem with hmem | hmem
          · exact ih hmem
          · rw [List.mem_singleton] at hmem
            cases hmem
            exact ⟨owner, howner, hlen⟩
    · exact ih hmem

theorem exists_fills_of_hidden {e : Env} {f : Function} {site : Site} {i : Nat} {h : HiddenLength}
    (hlookup : (Analysis.of e f site).1.hidden.lookup i = some h) :
    ∃ owner ∈ arrayOwners f, ∃ a,
      Fills f.args (Analysis.takesSelfFirst e f site) owner.1 owner.2 i a h := by
  rw [Analysis.of_hidden] at hlookup
  obtain ⟨owner, howner, hlen⟩ := exists_owner_of_mem (mem_of_lookup hlookup)
  exact ⟨owner, howner, fills_of_hiddenLength hlen⟩

section
variable {e : Env} {f : Function} {site : Site} {i j : Nat}

/-- What is filled in as a length is a number by value. -/
theorem isLength_of_hidden {a : Argument} {h : HiddenLength} (ha : f.args[i]? = some a)
    (hlookup : (Analysis.of e f site).1.hidden.lookup i = some h) : isLength a = true := by
  obtain ⟨owner, -, b, hfills⟩ := exists_fills_of_hidden hlookup
  have hb := hfills.argument
  rw [ha, Option.some.injEq] at hb
  exact hb ▸ hfills.number

/-! ## Data of callbacks -/

theorem names_of_dataOf (h : (Analysis.of e f site).1.dataOf.lookup j = some i) :
    ∃ a b, Analysis.Names e f i j a b :=
  ((Analysis.paired_of e f site).pair j i (mem_of_lookup h)).2

/-- What carries the data of a callback is a pointer to nothing in particular. -/
theorem isUserData_of_dataOf {b : Argument} (hb : f.args[j]? = some b)
    (h : (Analysis.of e f site).1.dataOf.lookup j = some i) : isUserData b = true := by
  obtain ⟨a, b', hnames⟩ := names_of_dataOf h
  have hb' := hnames.data
  rw [hb, Option.some.injEq] at hb'
  exact hb' ▸ hnames.pointer

theorem isSelfArgument_of_selfFirst {a : Argument}
    (hself : Analysis.takesSelfFirst e f site = true) (ha : f.args[0]? = some a) :
    ∃ c, isSelfArgument e.scope c a = true := by
  unfold Analysis.takesSelfFirst at hself
  split at hself
  · next hargs =>
      rw [hargs, List.getElem?_cons_zero, Option.some.injEq] at ha
      subst ha
      rw [Bool.and_eq_true] at hself
      exact ⟨_, hself.2⟩
  · cases hself

/-! ## Types by role -/

/-- What an argument is on the strength of its role. -/
def Role.Suits (s : Scope) (a : Argument) : Role → Prop
  | .self => ∃ c, isSelfArgument s c a = true
  | .hidden _ => isLength a = true
  | .userData _ => isUserData a = true
  | .callback => isCallback s a = true
  | .release | .input | .output | .inout => True

theorem suits_role (e : Env) (site : Site) {a : Argument} (ha : f.args[i]? = some a) :
    ((Analysis.of e f site).1.role i a).Suits e.scope a := by
  have hwarranted := (Analysis.of e f site).1.warranted_role i a
  cases hrole : (Analysis.of e f site).1.role i a with
  | self =>
      rw [hrole] at hwarranted
      obtain ⟨rfl, hself⟩ := hwarranted
      rw [Analysis.of_selfFirst] at hself
      exact isSelfArgument_of_selfFirst hself ha
  | hidden h =>
      rw [hrole] at hwarranted
      exact isLength_of_hidden ha hwarranted
  | userData handle =>
      rw [hrole] at hwarranted
      obtain ⟨callback, hlookup⟩ := Option.isSome_iff_exists.mp hwarranted
      exact isUserData_of_dataOf ha hlookup
  | callback =>
      rw [hrole] at hwarranted
      have hcallback := hwarranted.2
      rwa [Analysis.of_env] at hcallback
  | release | input | output | inout => trivial

end

/-! ## Slots by role -/

/-- What stands in the slot of an argument on the strength of its role. -/
def Role.Passes (a : Argument) (locals : Locals) (slot : Slot) : Role → Prop
  | .self => slot = .self
  | .hidden (.fromArray m) =>
      slot = .length ((numericCell? a.type.tag).getD .i32) ((locals.param? m).getD "")
  | .userData handle => slot = .handle handle
  | .release => slot = .destroyNotify
  | .callback => (∃ name, slot = .trampoline name) ∨ ∃ what, slot = .value (.unmapped what)
  | .input => ∃ v, slot = .value v
  | .hidden .outSlot | .output | .inout => slot = .empty

theorem Part.passes_of (an : Analysis) (i : Nat) (a : Argument) (l : Locals) :
    (an.role i a).Passes a l (Part.of an i a l).1.slot := by
  unfold Part.of
  cases an.role i a with
  | hidden h => cases h <;> rfl
  | callback =>
      show (∃ name, (callback an i a _).slot = .trampoline name) ∨
        ∃ what, (callback an i a _).slot = .value (.unmapped what)
      rcases callback_cases an i a ((l.param? i).getD a.name) with
        ⟨handle, -, -, h⟩ | h | ⟨reason, -, h⟩ <;> rw [h]
      · exact .inl ⟨_, rfl⟩
      · exact .inl ⟨_, rfl⟩
      · exact .inr ⟨_, rfl⟩
  | input => exact ⟨_, rfl⟩
  | inout =>
      show (inout an i a _ l).1.slot = .empty
      rcases inout_cases an i a ((l.param? i).getD a.name) l with
        h | ⟨value, -, h | ⟨-, h⟩⟩ <;> rw [h] <;> rfl
  | self | userData handle | release | output => rfl

/-! ## Representation by role -/

theorem isSome_carrier_of_isLength {s : Scope} {a : Argument} (h : isLength a = true) :
    ∃ k, Carrier.of (s.resolve a.type) = .ok k := by
  rw [isLength, Bool.and_eq_true, Bool.not_eq_true'] at h
  obtain ⟨c, hc⟩ := Option.isSome_iff_exists.mp h.2
  obtain ⟨k, hk, -⟩ := represents_scalar (s := s) h.1 (mem_scalarCells hc)
  exact ⟨k, hk⟩

theorem isSome_carrier_of_callback {s : Scope} {a : Argument} (h : isCallback s a = true) :
    ∃ k, Carrier.of (s.resolve a.type) = .ok k := by
  rw [isCallback, Bool.and_eq_true, decide_eq_true_eq, decide_eq_true_eq, Scope.kindOf?,
    Option.map_eq_some_iff] at h
  obtain ⟨htag, r, hr, hkind⟩ := h
  cases hp : a.type.isPointer with
  | true =>
      obtain ⟨k, hk, -⟩ := represents_ptr (s := s) hp
      exact ⟨k, hk⟩
  | false =>
      obtain ⟨k, hk, -⟩ := represents_kind hp htag hr (.inr (.inr ⟨hkind, rfl⟩))
      exact ⟨k, hk⟩

/-- An input that is neither a release nor shown as missing in its slot has a carrier once
references are looked up. -/
theorem carrier_of_input (e : Env) {f : Function} (site : Site) {i : Nat} {a : Argument}
    (ha : f.args[i]? = some a) (hin : a.direction = .in) (locals : Locals) :
    (Analysis.of e f site).1.role i a = .release ∨
      (∃ what, (Part.of (Analysis.of e f site).1 i a locals).1.slot = .value (.unmapped what)) ∨
        ∃ k, Carrier.of (e.scope.resolve a.type) = .ok k := by
  have hwarranted := (Analysis.of e f site).1.warranted_role i a
  have hsuits := suits_role e site ha
  cases hrole : (Analysis.of e f site).1.role i a with
  | self =>
      rw [hrole] at hsuits
      obtain ⟨c, hself⟩ := hsuits
      simp only [isSelfArgument, Bool.and_eq_true] at hself
      obtain ⟨k, hk, -⟩ := represents_ptr (s := e.scope) hself.1.1.2
      exact .inr (.inr ⟨k, hk⟩)
  | hidden h =>
      rw [hrole] at hsuits
      exact .inr (.inr (isSome_carrier_of_isLength hsuits))
  | userData handle =>
      rw [hrole] at hsuits
      have hdata : isUserData a = true := hsuits
      rw [isUserData, Bool.and_eq_true] at hdata
      obtain ⟨k, hk, -⟩ := represents_ptr (s := e.scope) hdata.2
      exact .inr (.inr ⟨k, hk⟩)
  | release => exact .inl rfl
  | callback =>
      rw [hrole] at hsuits
      exact .inr (.inr (isSome_carrier_of_callback hsuits))
  | input =>
      refine .inr ?_
      unfold Part.of
      simp only [hrole, Analysis.of_env]
      cases hslot : (Input.of e.scope a.type ((locals.param? i).getD a.name) a.nullable a.transfer
        locals).1.slot with
      | unmapped what => exact .inl ⟨what, congrArg Slot.value hslot⟩
      | make c v =>
          obtain ⟨k, hk, -⟩ := Input.represents_of (c := c) (by rw [hslot]; rfl)
          exact .inr ⟨k, hk⟩
  | output =>
      rw [hrole] at hwarranted
      have hout := hwarranted.1
      rw [hin] at hout
      cases hout
  | inout =>
      rw [hrole] at hwarranted
      have hinout : a.direction = .inout := hwarranted
      rw [hin] at hinout
      cases hinout

end Introspect.Binding
