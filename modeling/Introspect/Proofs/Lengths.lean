import Introspect.Binding.Generate
import Introspect.Proofs.Roles

/-!
# Lengths

The length of an array travels in an argument of its own. Where the host gives the array, the
binding fills the length in from the array's view; where the callee leaves the array, the binding
sets the length on the view it reads.

An array that is read takes its length from the slot of the argument that carries it, or else from
the parameter of that argument. There is a parameter unless the binding withholds it: the length is
filled in from another array, or the argument is taken for the release of a callback. An array that
asks for a length which is withheld is written all the same, with a variable that nothing binds.

A length that is filled in is taken from the argument whose type names it. That goes by the type
alone. What the host sees of the array is decided elsewhere, and only a view has a length.
-/

namespace Introspect.Binding

open Naming (Locals)

/-! ## Places of lengths -/

namespace Analysis

/-- Every slot that an argument uses is in the block. -/
theorem lt_outCount_of_outSlot (e : Env) (f : Function) (site : Site) {i k : Nat}
    (h : (of e f site).1.outSlot? i = some k) : k < (of e f site).1.outCount := by
  obtain ⟨a, ha, huses, rfl⟩ := (outSlot?_of_eq_some e site).mp h
  have htake : f.args.take (i + 1) = f.args.take i ++ [a] := by
    rw [List.take_add_one, ha]
    rfl
  have hle : (f.args.take (i + 1)).countP Argument.usesOutSlot ≤
      f.args.countP Argument.usesOutSlot :=
    (List.take_sublist _ _).countP_le
  rw [htake, List.countP_append, List.countP_singleton, if_pos huses] at hle
  rw [outCount, valueSlots_of]
  omega

theorem usesOutSlot_eq_false (e : Env) (site : Site) {f : Function} {i : Nat} {a : Argument}
    (ha : f.args[i]? = some a) (h : (of e f site).1.outSlot? i = none) : a.usesOutSlot = false := by
  cases huses : a.usesOutSlot with
  | false => rfl
  | true =>
      have hsome := (outSlot?_of_eq_some e site).mpr ⟨a, ha, huses, rfl⟩
      rw [h] at hsome
      cases hsome

end Analysis

section
variable {e : Env} {f : Function} {site : Site} {i : Nat} {a : Argument}

/-- A value of a plain type that goes in has a parameter, unless it is a length taken from an array
or taken for a release. -/
theorem role_of_value (e : Env) (site : Site) (ha : f.args[i]? = some a)
    (hslot : a.usesOutSlot = false) (hvoid : a.type.tag ≠ .void)
    (hnamed : a.type.tag ≠ .interface) :
    (Analysis.of e f site).1.role i a = .input ∨ (Analysis.of e f site).1.role i a = .release ∨
      ∃ m, (Analysis.of e f site).1.role i a = .hidden (.fromArray m) := by
  have hwarranted := (Analysis.of e f site).1.warranted_role i a
  have hsuits := suits_role e site ha
  cases hrole : (Analysis.of e f site).1.role i a with
  | input => exact .inl rfl
  | release => exact .inr (.inl rfl)
  | hidden h =>
      cases h with
      | fromArray m => exact .inr (.inr ⟨m, rfl⟩)
      | outSlot =>
          rw [hrole] at hwarranted
          obtain ⟨owner, -, b, hfills⟩ := exists_fills_of_hidden hwarranted
          have hb := hfills.argument
          rw [ha, Option.some.injEq] at hb
          subst hb
          have huses := hfills.warranted.2
          rw [hslot] at huses
          cases huses
  | self =>
      rw [hrole] at hsuits
      obtain ⟨c, hself⟩ := hsuits
      simp only [isSelfArgument, Bool.and_eq_true, decide_eq_true_eq] at hself
      exact absurd hself.1.2 hnamed
  | userData handle =>
      rw [hrole] at hsuits
      have hdata : isUserData a = true := hsuits
      rw [isUserData, Bool.and_eq_true, decide_eq_true_eq] at hdata
      exact absurd hdata.1 hvoid
  | callback =>
      rw [hrole] at hsuits
      have hcallback : isCallback e.scope a = true := hsuits
      rw [isCallback, Bool.and_eq_true, decide_eq_true_eq] at hcallback
      exact absurd hcallback.1 hnamed
  | output =>
      rw [hrole] at hwarranted
      have huses := hwarranted.2
      rw [hslot] at huses
      cases huses
  | inout =>
      rw [hrole] at hwarranted
      have hinout : a.direction = .inout := hwarranted
      rw [Argument.usesOutSlot, hinout] at hslot
      cases hslot

/-- An input is given by the parameter of its own variable. -/
theorem Part.param_of_input {an : Analysis} {l : Locals} (hrole : an.role i a = .input) :
    (Part.of an i a l).1.param =
      some ⟨(l.param? i).getD a.name, (Input.of an.env.scope a.type ((l.param? i).getD a.name)
        a.nullable a.transfer l).1.host⟩ := by
  unfold Part.of
  rw [hrole]
  rfl

theorem Part.param_of_withheld {an : Analysis} {l : Locals}
    (hrole : an.role i a = .release ∨ ∃ m, an.role i a = .hidden (.fromArray m)) :
    (Part.of an i a l).1.param = none := by
  unfold Part.of
  rcases hrole with hrole | ⟨m, hrole⟩
  · rw [hrole]
  · rw [hrole]

theorem Part.result_callback {an : Analysis} {var : String} :
    (callback an i a var).result = none := by
  rcases callback_cases an i a var with ⟨handle, -, -, h⟩ | h | ⟨reason, -, h⟩ <;> rw [h] <;> rfl

theorem Part.result_inout {an : Analysis} {var : String} {l : Locals} :
    (inout an i a var l).1.result = none := by
  rcases inout_cases an i a var l with h | ⟨value, -, h | ⟨-, h⟩⟩ <;> rw [h] <;> rfl

/-- An array that a part leaves has the length that goes with it. -/
theorem Part.lengthPlace_of_result {an : Analysis} {l : Locals} {var : String} {o : Output}
    {place : LengthPlace} (hresult : (Part.of an i a l).1.result = some (var, o))
    (h : o.value.length? = some place) :
    ∃ n, a.type.lengthArg = some n ∧ an.lengthPlace? l n = some place := by
  unfold Part.of at hresult
  cases hrole : an.role i a with
  | output =>
      rw [hrole] at hresult
      simp only [output, Option.some.injEq, Prod.mk.injEq] at hresult
      obtain ⟨-, rfl⟩ := hresult
      exact Analysis.lengthPlace_of_arrayLength (Output.readsFrom_of.2 place h)
  | hidden h => cases h <;> (rw [hrole] at hresult; cases hresult)
  | callback => rw [hrole] at hresult; exact absurd hresult (by simp [Part.result_callback])
  | inout => rw [hrole] at hresult; exact absurd hresult (by simp [Part.result_inout])
  | self | userData handle | release | input => rw [hrole] at hresult; cases hresult

end

namespace Call

/-- A place that the call has: a slot of its block, or one of its parameters. -/
inductive InScope (c : Call) : LengthPlace → Prop
  | outSlot {block : String} {k : Nat} {cell : Cell} :
      c.block? = some block → k < c.analysis.outCount → InScope c (.outSlot block k cell)
  | parameter {p : Param} : p ∈ c.params → InScope c (.parameter p.var)

/-- An array that is read after the call takes its length from `place`, by the argument at `n`. -/
inductive Decodes (c : Call) (n : Nat) (place : LengthPlace) : Prop
  | argument {i : Nat} {a : Argument} {p : Part} {var : String} {o : Output} :
      c.analysis.function.args[i]? = some a → c.parts[c.position i]? = some p →
      p.result = some (var, o) → a.type.lengthArg = some n → o.value.length? = some place →
      Decodes c n place
  | result {var : String} {o : Output} :
      c.result = some (var, o) → c.analysis.function.returns.lengthArg = some n →
      o.value.length? = some place → Decodes c n place

/-- The binding has no parameter for the value at `n`: it takes the value from an array, or takes
the argument for a release. -/
def Withholds (c : Call) (n : Nat) : Prop :=
  ∃ a, c.analysis.function.args[n]? = some a ∧ a.usesOutSlot = false ∧
    (c.analysis.role n a = .release ∨ ∃ m, c.analysis.role n a = .hidden (.fromArray m))

theorem inScope_parameter {c : Call} {var : String} :
    c.InScope (.parameter var) ↔ var ∈ c.params.map Param.var := by
  constructor
  · intro h
    cases h with
    | parameter hp => exact List.mem_map_of_mem hp
  · intro h
    obtain ⟨p, hp, rfl⟩ := List.mem_map.mp h
    exact .parameter hp

/-- The length that the argument at `n` carries is looked for at `place`. The call has that place,
unless the argument is withheld; then it is the variable of a parameter that the call does not
have. -/
structure LooksAt (c : Call) (n : Nat) (place : LengthPlace) : Prop where
  inScope : ¬ c.Withholds n → c.InScope place
  withheld : c.Withholds n → ∃ var p, place = .parameter var ∧
    (Analysis.paramLocals c.analysis.function).param? n = some var ∧
      c.parts[c.position n]? = some p ∧ p.param = none

section
variable {e : Env} {f : Function} {site : Site}

/-- A length has a slot of its own, or else the variable of a parameter. -/
theorem looksAt_of_lengthPlace {l : Locals} {n : Nat} {place : LengthPlace}
    (hl : l.params = (Analysis.paramLocals f).params)
    (h : (Analysis.of e f site).1.lengthPlace? l n = some place) :
    (Call.of e f site).LooksAt n place := by
  have hfunction : (Call.of e f site).analysis.function = f := Analysis.of_function e f site
  obtain ⟨a, cell, ha, hcell, ⟨k, hk, rfl⟩ | ⟨hnone, var, hvar, rfl⟩⟩ :=
    Analysis.lengthPlace_cases h
  · constructor
    · intro _
      have hlt := Analysis.lt_outCount_of_outSlot e f site hk
      refine .outSlot ?_ hlt
      rw [block?, analysis_of, if_neg (by omega)]
    · rintro ⟨b, hb, hslot, -⟩
      obtain ⟨b', hb', huses, -⟩ := (Analysis.outSlot?_of_eq_some e site).mp hk
      rw [hfunction, hb', Option.some.injEq] at hb
      subst hb
      rw [huses] at hslot
      cases hslot
  · rw [Analysis.of_function] at ha
    have hslot := Analysis.usesOutSlot_eq_false e site ha hnone
    obtain ⟨l', hl', hpart⟩ := exists_part e site ha
    rw [Locals.param?_congr hl] at hvar
    constructor
    · intro hgiven
      have hplain : a.type.tag ≠ .void ∧ a.type.tag ≠ .interface := by
        constructor <;> intro htag <;> rw [htag] at hcell <;> cases hcell
      rcases role_of_value e site ha hslot hplain.1 hplain.2 with hrole | hrole
      · have hparam := Part.param_of_input (l := l') hrole
        rw [Locals.param?_congr hl', hvar, Option.getD_some] at hparam
        exact .parameter (List.mem_filterMap.mpr ⟨_, List.mem_of_getElem? hpart, hparam⟩)
      · exact absurd ⟨a, hfunction.symm ▸ ha, hslot, hrole⟩ hgiven
    · rintro ⟨b, hb, -, hrole⟩
      rw [hfunction, ha, Option.some.injEq] at hb
      subst hb
      exact ⟨var, _, rfl, hfunction.symm ▸ hvar, hpart, Part.param_of_withheld hrole⟩

/-- An array among the results of a call has the length that goes with it. -/
theorem exists_decodes {var : String} {o : Output} {place : LengthPlace}
    (h : (var, o) ∈ (Call.of e f site).results) (hplace : o.value.length? = some place) :
    ∃ n l, (Call.of e f site).Decodes n place ∧ l.params = (Analysis.paramLocals f).params ∧
      (Analysis.of e f site).1.lengthPlace? l n = some place := by
  have hfunction : (Call.of e f site).analysis.function = f := Analysis.of_function e f site
  rw [results, List.mem_append, Option.mem_toList, List.mem_filterMap] at h
  rcases h with hresult | ⟨p, hp, hresult⟩
  · have hresult' := hresult
    rw [result_of] at hresult'
    obtain ⟨n, hn, hlength⟩ := lengthPlace_of_resultOf hresult' hplace
    refine ⟨n, _, .result hresult hn hplace, ?_, hlength⟩
    exact (Part.params_allFrom _ _).trans (Analysis.params_of e f site)
  · rcases mem_parts hp with hp | ⟨i, a, ha, hi⟩ | hp
    · rcases Part.eq_of_mem_receiver hp with rfl | ⟨var, rfl⟩ <;> cases hresult
    · obtain ⟨l, hl, hpart⟩ := exists_part e site ha
      rw [hi, Option.some.injEq] at hpart
      have hresult' := hresult
      rw [hpart] at hresult'
      obtain ⟨n, hn, hlength⟩ := Part.lengthPlace_of_result hresult' hplace
      exact ⟨n, l, .argument (hfunction.symm ▸ ha) hi hresult hn hplace, hl, hlength⟩
    · rw [Part.eq_of_mem_error hp] at hresult
      cases hresult

/-- A length that is set on an array after the call is looked for where the argument that carries it
is, which the call has unless it withholds the argument. -/
theorem looksAt_of_mem_results {var : String} {o : Output} {place : LengthPlace}
    (h : (var, o) ∈ (Call.of e f site).results) (hplace : o.value.length? = some place) :
    ∃ n, (Call.of e f site).Decodes n place ∧ (Call.of e f site).LooksAt n place := by
  obtain ⟨n, l, hdecodes, hl, hlength⟩ := exists_decodes h hplace
  exact ⟨n, hdecodes, looksAt_of_lengthPlace hl hlength⟩

end

end Call

/-! ## A length asked for twice -/

/-- Numbers, as many as the argument at `n` says. -/
def numbers (kind : ArrayKind) (n : Nat) : NativeType :=
  .of { tag := .array, isPointer := true, lengthArg := some n, arrayKind := kind } (.scalar .int32)

/-- A function that yields as many numbers as it is told to. -/
def zeros : Function :=
  { name := "zeros", symbol := "demo_zeros"
    args := [{ name := "n", type := .scalar .int32 }]
    returns := numbers .c 0 }

/-- A function that yields as many numbers as it is given. -/
def scaled : Function :=
  { name := "scaled", symbol := "demo_scaled"
    args := [{ name := "values", type := numbers .c 1 }, { name := "n", type := .scalar .int32 }]
    returns := numbers .c 1 }

/-- The namespace of a function. -/
def only (f : Function) : Scope :=
  { space := { name := "Demo", version := "1.0", infos := [.function f] } }

/-- The numbers are as many as the parameter says. -/
theorem looksAt_zeros :
    ("result", ⟨"gi::NativeArray<i32>",
        .array "gi::NativeArray::<i32>" "ret" "arr" (.along (.parameter "n"))⟩) ∈
          (Call.of (Env.of (only zeros)) zeros { id := 0, index := 0 }).results ∧
      ∃ n,
        (Call.of (Env.of (only zeros)) zeros { id := 0, index := 0 }).Decodes n (.parameter "n") ∧
        (Call.of (Env.of (only zeros)) zeros { id := 0, index := 0 }).LooksAt n
          (.parameter "n") := by
  have hresult : ("result", ⟨"gi::NativeArray<i32>",
      .array "gi::NativeArray::<i32>" "ret" "arr" (.along (.parameter "n"))⟩) ∈
        (Call.of (Env.of (only zeros)) zeros { id := 0, index := 0 }).results := by
    decide
  exact ⟨hresult, Call.looksAt_of_mem_results hresult rfl⟩

/-- The length of what is given is that of what is yielded, and has no parameter. -/
theorem not_inScope_scaled :
    (only scaled).space.validate = .ok (only scaled).space ∧
      .function scaled { id := 0, index := 0 } ∈
        (itemsFrom (Env.of (only scaled)) 0 {} (only scaled).space.infos).1 ∧
          ("result", ⟨"gi::NativeArray<i32>",
              .array "gi::NativeArray::<i32>" "ret" "arr" (.along (.parameter "n"))⟩) ∈
            (Call.of (Env.of (only scaled)) scaled { id := 0, index := 0 }).results ∧
              ¬ (Call.of (Env.of (only scaled)) scaled { id := 0, index := 0 }).InScope
                (.parameter "n") := by
  refine ⟨rfl, List.mem_cons_self, by decide, ?_⟩
  rw [Call.inScope_parameter]
  decide

/-! ## Lengths of views -/

/-- Whether an array is handed over as a view of its elements. -/
def ArrayHost.isView : ArrayHost → Bool
  | .view .. => true
  | .pointer | .unmapped _ => false

/-- A view is handed over by its own type. -/
theorem Input.host_of_view {s : Scope} {t : NativeType} {var type path : String} {nullable : Bool}
    {transfer : Transfer} {locals : Locals} (htag : t.tag = .array)
    (hview : ArrayHost.of s t = .view type path) :
    (Input.of s t var nullable transfer locals).1.host = type := by
  unfold Input.of
  rw [htag]
  simp only [hview]
  rfl

/-- The array that a length is taken from. -/
theorem exists_array_of_fromArray {e : Env} {f : Function} {site : Site} {n m : Nat}
    (h : (Analysis.of e f site).1.hidden.lookup n = some (.fromArray m)) :
    ∃ a b, f.args[n]? = some a ∧ isLength a = true ∧ f.args[m]? = some b ∧ b.type.tag = .array ∧
      b.type.lengthArg = some n ∧ b.usesOutSlot = false := by
  obtain ⟨⟨owner, t⟩, howner, a, hfills⟩ := exists_fills_of_hidden h
  obtain ⟨-, hm, b, hb, hslot⟩ := hfills.warranted
  dsimp only at hm
  subst hm
  have ht : t = b.type := by
    rw [arrayOwners, List.mem_append, List.mem_map, List.mem_singleton] at howner
    rcases howner with ⟨⟨b', m'⟩, hmem, heq⟩ | heq
    · cases heq
      have hb' := List.mem_zipIdx_iff_getElem?.mp hmem
      rw [hb, Option.some.injEq] at hb'
      rw [hb']
    · cases heq
  subst ht
  exact ⟨a, b, hfills.argument, hfills.number, hb, hfills.array, hfills.length, hslot⟩

/-- An array that goes in has a parameter, unless it is taken for a release. -/
theorem role_of_array (e : Env) {f : Function} (site : Site) {m : Nat} {b : Argument}
    (hb : f.args[m]? = some b) (htag : b.type.tag = .array) (hslot : b.usesOutSlot = false) :
    (Analysis.of e f site).1.role m b = .input ∨ (Analysis.of e f site).1.role m b = .release := by
  have hplain : b.type.tag ≠ .void ∧ b.type.tag ≠ .interface := by
    constructor <;> intro h <;> rw [htag] at h <;> cases h
  rcases role_of_value e site hb hslot hplain.1 hplain.2 with h | h | ⟨n, h⟩
  · exact .inl h
  · exact .inr h
  · -- An array is not a length.
    have hsuits := suits_role e site hb
    rw [h] at hsuits
    have hlength : isLength b = true := hsuits
    rw [isLength, htag, Bool.and_eq_true] at hlength
    cases hlength.2

/-- Only a length that is taken from an array is read from one. -/
theorem Part.role_of_length {an : Analysis} {i : Nat} {a : Argument} {l : Locals} {cell : Cell}
    {var : String} (h : (Part.of an i a l).1.slot = .length cell var) :
    ∃ m, an.role i a = .hidden (.fromArray m) ∧ cell = (numericCell? a.type.tag).getD .i32 ∧
      var = (l.param? m).getD "" := by
  have hpasses := Part.passes_of an i a l
  rw [h] at hpasses
  cases hrole : an.role i a with
  | hidden hl =>
      rw [hrole] at hpasses
      cases hl with
      | fromArray m =>
          cases hpasses
          exact ⟨m, rfl, rfl, rfl⟩
      | outSlot => cases hpasses
  | callback =>
      rw [hrole] at hpasses
      rcases hpasses with ⟨_, h⟩ | ⟨_, h⟩ <;> cases h
  | input =>
      rw [hrole] at hpasses
      obtain ⟨_, h⟩ := hpasses
      cases h
  | self | userData handle | release | output | inout => rw [hrole] at hpasses; cases hpasses

namespace Call

/-- The host gives the array at `m` as a view, under the name `var`. -/
def Views (c : Call) (m : Nat) (var : String) : Prop :=
  ∃ b p type path, c.analysis.function.args[m]? = some b ∧ c.parts[c.position m]? = some p ∧
    ArrayHost.of c.analysis.env.scope b.type = .view type path ∧ p.param = some ⟨var, type⟩

section
variable {e : Env} {f : Function} {site : Site}

/-- An array that goes in is given as a view, if it has one and is not taken for a release. -/
theorem views_iff {m : Nat} {b : Argument} {var : String} (hb : f.args[m]? = some b)
    (htag : b.type.tag = .array) (hslot : b.usesOutSlot = false)
    (hvar : (Analysis.paramLocals f).param? m = some var) :
    (Call.of e f site).Views m var ↔
      (ArrayHost.of e.scope b.type).isView = true ∧
        (Call.of e f site).analysis.role m b ≠ .release := by
  have hfunction : (Call.of e f site).analysis.function = f := Analysis.of_function e f site
  have henv : (Call.of e f site).analysis.env = e := Analysis.of_env e f site
  obtain ⟨l, hl, hpart⟩ := exists_part e site hb
  constructor
  · rintro ⟨b', p, type, path, hb', hp, hview, hparam⟩
    rw [hfunction, hb, Option.some.injEq] at hb'
    subst hb'
    rw [henv] at hview
    rw [hpart, Option.some.injEq] at hp
    subst hp
    refine ⟨by rw [hview]; rfl, fun hrelease => ?_⟩
    rw [Part.param_of_withheld (.inl hrelease)] at hparam
    cases hparam
  · rintro ⟨hview, hkept⟩
    obtain ⟨type, path, hhost⟩ : ∃ type path, ArrayHost.of e.scope b.type = .view type path := by
      cases hhost : ArrayHost.of e.scope b.type with
      | view type path => exact ⟨type, path, rfl⟩
      | pointer | unmapped what => rw [hhost] at hview; cases hview
    have hinput := (role_of_array e site hb htag hslot).resolve_right hkept
    have hparam := Part.param_of_input (l := l) hinput
    rw [Locals.param?_congr hl, hvar, Option.getD_some, Analysis.of_env,
      Input.host_of_view htag hhost] at hparam
    exact ⟨b, _, type, path, hfunction.symm ▸ hb, hpart, henv.symm ▸ hhost, hparam⟩

/-- A length that is filled in is read from the array whose type names it. That array is given as a
view exactly if it has one and is not taken for a release. -/
theorem views_iff_of_length {n : Nat} {a : Argument} {cell : Cell} {var : String}
    (ha : f.args[n]? = some a)
    (h : (Call.of e f site).slots[(Call.of e f site).position n]? = some (.length cell var)) :
    numericCell? a.type.tag = some cell ∧
      ∃ m b, f.args[m]? = some b ∧ b.type.tag = .array ∧ b.type.lengthArg = some n ∧
        ((Call.of e f site).Views m var ↔ (ArrayHost.of e.scope b.type).isView = true ∧
          (Call.of e f site).analysis.role m b ≠ .release) := by
  obtain ⟨l, hl, hpart⟩ := exists_part e site ha
  rw [slots, List.getElem?_map, hpart, Option.map_some, Option.some.injEq] at h
  obtain ⟨m, hrole, rfl, rfl⟩ := Part.role_of_length h
  have hhidden := (Call.of e f site).analysis.warranted_role n a
  rw [hrole] at hhidden
  obtain ⟨a', b, ha', hnumber, hb, htag, hlength, hslot⟩ := exists_array_of_fromArray hhidden
  rw [ha, Option.some.injEq] at ha'
  subst ha'
  obtain ⟨c, hc⟩ := Option.isSome_iff_exists.mp (Bool.and_eq_true_iff.mp hnumber).2
  obtain ⟨var, hvar⟩ := Analysis.exists_param hb
  rw [hc, Locals.param?_congr hl, hvar, Option.getD_some, Option.getD_some]
  exact ⟨rfl, m, b, hb, htag, hlength, views_iff hb htag hslot hvar⟩

end

end Call

/-- A function of as many numbers as are given. -/
def sum (kind : ArrayKind) : Function :=
  { name := "sum", symbol := "demo_sum"
    args := [{ name := "values", type := numbers kind 1 },
      { name := "n", type := .scalar .int32 }] }

/-- The length of numbers in a row is read from their view. -/
theorem views_iff_sum :
    (Call.of (Env.of (only (sum .c))) (sum .c) { id := 0, index := 0 }).slots[
        (Call.of (Env.of (only (sum .c))) (sum .c) { id := 0, index := 0 }).position 1]? =
          some (.length .i32 "values") ∧
      numericCell? .int32 = some .i32 ∧
        ∃ m b, (sum .c).args[m]? = some b ∧ b.type.tag = .array ∧ b.type.lengthArg = some 1 ∧
          ((Call.of (Env.of (only (sum .c))) (sum .c) { id := 0, index := 0 }).Views m "values" ↔
            (ArrayHost.of (only (sum .c)) b.type).isView = true ∧
              (Call.of (Env.of (only (sum .c))) (sum .c)
                { id := 0, index := 0 }).analysis.role m b ≠ .release) :=
  ⟨rfl, Call.views_iff_of_length (f := sum .c) (n := 1) rfl rfl⟩

/-- The length of numbers in a structure of their own is read from the pointer to it. -/
theorem not_views_sum :
    (only (sum .array)).space.validate = .ok (only (sum .array)).space ∧
      .function (sum .array) { id := 0, index := 0 } ∈
        (itemsFrom (Env.of (only (sum .array))) 0 {} (only (sum .array)).space.infos).1 ∧
          (Call.of (Env.of (only (sum .array))) (sum .array) { id := 0, index := 0 }).slots =
            [.value (.make .ptr "values"), .length .i32 "values"] ∧
              (Call.of (Env.of (only (sum .array))) (sum .array) { id := 0, index := 0 }).params =
                [⟨"values", pointerType⟩] ∧
                  ∀ m, ¬ (Call.of (Env.of (only (sum .array))) (sum .array)
                    { id := 0, index := 0 }).Views m "values" := by
  refine ⟨rfl, List.mem_cons_self, rfl, rfl, ?_⟩
  rintro m ⟨b, p, type, path, hb, -, hview, -⟩
  have hnone : ∀ b ∈ (sum .array).args,
      (ArrayHost.of (only (sum .array)) b.type).isView = false := by
    decide
  have hfalse : (ArrayHost.of (only (sum .array)) b.type).isView = false :=
    hnone b (List.mem_of_getElem? hb)
  have htrue : (ArrayHost.of (only (sum .array)) b.type).isView = true :=
    congrArg ArrayHost.isView hview
  rw [hfalse] at htrue
  cases htrue

end Introspect.Binding
