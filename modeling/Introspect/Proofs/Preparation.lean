import Introspect.Native.Invoker

/-!
# What preparing a function fixes

`Invoker.prepare` succeeds for exactly the functions whose inputs and result have carriers, at any
address but the null pointer; the two refusals of `withSignature` are then the null pointer alone,
because the positions it is given are positions of the parameters it is given. What it fixes is read
off the description: one native argument for the instance of a method, one for each argument, one
for the error of a function that can fail, and among them the positions that the out block feeds.

The fed positions are counted by `positionsFrom`, which is a search with a running index. The lemma
everything rests on is `getElem?_positionsFrom`: an entry that is counted stands in the result at
the number of counted entries before it.
-/

namespace Introspect

/-! ## Positions -/

theorem length_positionsFrom {α : Type} (p : α → Bool) (xs : List α) :
    ∀ start, (positionsFrom p start xs).length = xs.countP p := by
  induction xs with
  | nil => intro start; rfl
  | cons x xs ih =>
      intro start
      rw [positionsFrom, List.countP_cons]
      split
      · rw [List.length_cons, ih]
      · rw [ih, Nat.add_zero]

theorem positionsFrom_map {α β : Type} (p : β → Bool) (g : α → β) (xs : List α) :
    ∀ start, positionsFrom p start (xs.map g) = positionsFrom (fun x => p (g x)) start xs := by
  induction xs with
  | nil => intro start; rfl
  | cons x xs ih =>
      intro start
      rw [List.map_cons, positionsFrom, positionsFrom, ih]

theorem lt_of_mem_positionsFrom {α : Type} {p : α → Bool} {xs : List α} :
    ∀ {start n : Nat}, n ∈ positionsFrom p start xs → n < start + xs.length := by
  induction xs with
  | nil => intro start n h; cases h
  | cons x xs ih =>
      intro start n h
      rw [List.length_cons]
      rw [positionsFrom] at h
      split at h
      · rcases List.mem_cons.mp h with rfl | h
        · omega
        · have := ih h; omega
      · have := ih h; omega

/-- A counted entry stands at the number of counted entries before it. -/
theorem getElem?_positionsFrom {α : Type} {p : α → Bool} {xs : List α} :
    ∀ {start i : Nat} {x : α}, xs[i]? = some x → p x = true →
      (positionsFrom p start xs)[(xs.take i).countP p]? = some (start + i) := by
  induction xs with
  | nil => intro start i x h _; cases h
  | cons y ys ih =>
      intro start i x h hp
      rw [positionsFrom]
      cases i with
      | zero =>
          simp only [List.getElem?_cons_zero, Option.some.injEq] at h
          subst h
          rw [if_pos hp]
          rfl
      | succ i =>
          rw [List.getElem?_cons_succ] at h
          have hrest : (positionsFrom p (start + 1) ys)[(ys.take i).countP p]? =
              some (start + 1 + i) := ih h hp
          rw [List.take_succ_cons]
          split <;> rename_i hy
          · rw [List.countP_cons_of_pos hy, List.getElem?_cons_succ, hrest]
            exact congrArg some (by omega)
          · rw [List.countP_cons_of_neg hy, hrest]
            exact congrArg some (by omega)

/-! ## Parameters -/

/-- Which native arguments of a function the out block feeds, in order. -/
def Function.feeding (f : Function) : List Bool :=
  (if f.flags.isMethod then [false] else []) ++ f.args.map (·.usesOutSlot) ++
    (if f.flags.throws then [true] else [])

theorem Function.length_feeding (f : Function) : f.feeding.length = f.nativeArity := by
  unfold Function.feeding Function.nativeArity
  rw [List.length_append, List.length_append, List.length_map]
  cases f.flags.isMethod <;> cases f.flags.throws <;> simp <;> omega

theorem Function.countP_feeding (f : Function) :
    f.feeding.countP id = f.args.countP Argument.usesOutSlot + f.flags.throws.toNat := by
  have hid : id ∘ Argument.usesOutSlot = Argument.usesOutSlot := rfl
  unfold Function.feeding
  rw [List.countP_append, List.countP_append, List.countP_map, hid]
  cases f.flags.isMethod <;> cases f.flags.throws <;> simp

theorem Function.getElem?_feeding {f : Function} {i : Nat} {a : Argument}
    (h : f.args[i]? = some a) :
    f.feeding[f.flags.isMethod.toNat + i]? = some a.usesOutSlot := by
  have hi := (List.getElem?_eq_some_iff.mp h).1
  unfold Function.feeding
  rw [List.getElem?_append_left]
  · cases f.flags.isMethod <;> simp [h, Nat.add_comm 1 i]
  · cases f.flags.isMethod <;> simp <;> omega

/-- The error of a function that can fail comes last. -/
theorem Function.getElem?_feeding_of_throws {f : Function} (h : f.flags.throws = true) :
    f.feeding[f.flags.isMethod.toNat + f.args.length]? = some true := by
  unfold Function.feeding
  rw [h, List.getElem?_append_right] <;> cases f.flags.isMethod <;> simp [Nat.add_comm 1]

/-- Before the place of an argument only arguments are counted. -/
theorem Function.countP_take_feeding {f : Function} {i : Nat} (hi : i ≤ f.args.length) :
    (f.feeding.take (f.flags.isMethod.toNat + i)).countP id =
      (f.args.take i).countP Argument.usesOutSlot := by
  have hid : id ∘ Argument.usesOutSlot = Argument.usesOutSlot := rfl
  unfold Function.feeding
  rw [List.take_append_of_le_length]
  · cases f.flags.isMethod <;> simp [Nat.add_comm 1 i, ← List.map_take, List.countP_map]
  · cases f.flags.isMethod <;> simp <;> omega

namespace Parameter

theorem fed_of_ofArgument {a : Argument} {p : Parameter} (h : ofArgument a = .ok p) :
    p.fed = a.usesOutSlot := by
  unfold ofArgument at h
  split at h
  · next hslot => cases h; exact hslot.symm
  · next hslot =>
      have hno : a.usesOutSlot = false := by simpa using hslot
      rw [hno]
      split at h
      · cases hk : Carrier.of a.type <;> rw [hk] at h <;> cases h
        rfl
      all_goals cases h; rfl

/-- Only the type of an input has to have a carrier. -/
theorem ofArgument_eq_ok_iff {a : Argument} :
    (∃ p, ofArgument a = .ok p) ↔ (a.direction = .in → ∃ k, Carrier.of a.type = .ok k) := by
  unfold ofArgument Argument.usesOutSlot
  cases a.direction with
  | «in» =>
      simp only [Bool.false_eq_true, if_false, true_implies]
      cases Carrier.of a.type <;> simp [Except.map]
  | out =>
      simp only [reduceCtorEq, false_implies, iff_true]
      split
      · exact ⟨_, rfl⟩
      · exact ⟨_, rfl⟩
  | inout => simp

theorem mapM_ofArgument_cons {a : Argument} {rest : List Argument} {ps : List Parameter} :
    (a :: rest).mapM ofArgument = .ok ps ↔
      ∃ p qs, ofArgument a = .ok p ∧ rest.mapM ofArgument = .ok qs ∧ ps = p :: qs := by
  rw [List.mapM_cons]
  cases ofArgument a with
  | error e => simp [bind, Except.bind]
  | ok p =>
      cases rest.mapM ofArgument with
      | error e => simp [bind, Except.bind]
      | ok qs =>
          simp only [bind, Except.bind, pure, Except.pure, Except.ok.injEq]
          constructor
          · intro h
            exact ⟨p, qs, rfl, rfl, h.symm⟩
          · rintro ⟨_, _, rfl, rfl, rfl⟩
            rfl

theorem fed_of_mapM {args : List Argument} :
    ∀ {ps : List Parameter}, args.mapM ofArgument = .ok ps →
      ps.map (·.fed) = args.map (·.usesOutSlot) := by
  induction args with
  | nil => intro ps h; cases h; rfl
  | cons a rest ih =>
      intro ps h
      obtain ⟨p, qs, hp, hqs, rfl⟩ := mapM_ofArgument_cons.mp h
      rw [List.map_cons, List.map_cons, fed_of_ofArgument hp, ih hqs]

theorem mapM_eq_ok_iff {args : List Argument} :
    (∃ ps, args.mapM ofArgument = .ok ps) ↔
      ∀ a ∈ args, a.direction = .in → ∃ k, Carrier.of a.type = .ok k := by
  induction args with
  | nil => simp [pure, Except.pure]
  | cons a rest ih =>
      rw [List.forall_mem_cons, ← ih, ← ofArgument_eq_ok_iff]
      simp only [mapM_ofArgument_cons]
      constructor
      · rintro ⟨_, p, qs, hp, hqs, rfl⟩
        exact ⟨⟨p, hp⟩, ⟨qs, hqs⟩⟩
      · rintro ⟨⟨p, hp⟩, ⟨qs, hqs⟩⟩
        exact ⟨p :: qs, p, qs, hp, hqs, rfl⟩

end Parameter

theorem Function.parameters_eq_ok_iff {f : Function} {params : List Parameter} :
    f.parameters = .ok params ↔
      ∃ ps, f.args.mapM Parameter.ofArgument = .ok ps ∧
        params = (if f.flags.isMethod then [⟨.pointer, false⟩] else []) ++ ps ++
          (if f.flags.throws then [Parameter.slot] else []) := by
  unfold Function.parameters
  cases f.args.mapM Parameter.ofArgument with
  | error e => simp [bind, Except.bind]
  | ok ps =>
      simp only [bind, Except.bind, pure, Except.pure, Except.ok.injEq]
      constructor
      · intro h
        exact ⟨ps, rfl, h.symm⟩
      · rintro ⟨_, rfl, rfl⟩
        rfl

theorem Function.fed_of_parameters {f : Function} {params : List Parameter}
    (h : f.parameters = .ok params) : params.map (·.fed) = f.feeding := by
  obtain ⟨ps, hps, rfl⟩ := Function.parameters_eq_ok_iff.mp h
  rw [Function.feeding, ← Parameter.fed_of_mapM hps]
  cases f.flags.isMethod <;> cases f.flags.throws <;> simp [Parameter.slot]

/-! ## Invokers -/

namespace Invoker

/-- The positions handed over are positions of the parameters, so only the null pointer is left to
refuse. -/
theorem withSignature_positions {symbol : String} {address : Address} {params : List Parameter}
    {result : Carrier} (h : address ≠ 0) :
    withSignature symbol address (params.map (·.carrier)) result
        (positionsFrom (·.fed) 0 params) =
      .ok ⟨symbol, address, params.map (·.carrier), result, positionsFrom (·.fed) 0 params⟩ := by
  have hnone : (positionsFrom (·.fed) 0 params).find?
      (fun p => decide ((params.map (·.carrier)).length ≤ p)) = none := by
    rw [List.find?_eq_none]
    intro n hn
    have hlt := lt_of_mem_positionsFrom hn
    rw [List.length_map, decide_eq_true_eq]
    omega
  rw [withSignature, if_neg h, hnone]

theorem prepare_eq_ok_iff {f : Function} {address : Address} {iv : Invoker} :
    prepare f address = .ok iv ↔
      address ≠ 0 ∧ ∃ params result, f.parameters = .ok params ∧ Carrier.of f.returns = .ok result ∧
        iv = ⟨f.symbol, address, params.map (·.carrier), result,
          positionsFrom (·.fed) 0 params⟩ := by
  cases hparams : f.parameters with
  | error cause =>
      have hprepare : prepare f address = .error (.layout f.symbol cause) := by
        rw [prepare, hparams]
        rfl
      simp [hprepare]
  | ok params =>
      cases hresult : Carrier.of f.returns with
      | error cause =>
          have hprepare : prepare f address = .error (.layout f.symbol cause) := by
            rw [prepare, hparams, hresult]
            rfl
          simp [hprepare]
      | ok result =>
          have hprepare : prepare f address = withSignature f.symbol address
              (params.map (·.carrier)) result (positionsFrom (·.fed) 0 params) := by
            rw [prepare, hparams, hresult]
            rfl
          rw [hprepare]
          by_cases h : address = 0
          · simp [withSignature, h]
          · rw [withSignature_positions h]
            simp [h, eq_comm]

/-- Preparation succeeds exactly where every input and the result have a carrier. -/
theorem exists_prepare_iff {f : Function} {address : Address} :
    (∃ iv, prepare f address = .ok iv) ↔
      address ≠ 0 ∧ (∀ a ∈ f.args, a.direction = .in → ∃ k, Carrier.of a.type = .ok k) ∧
        ∃ k, Carrier.of f.returns = .ok k := by
  rw [← Parameter.mapM_eq_ok_iff]
  simp only [prepare_eq_ok_iff, Function.parameters_eq_ok_iff]
  constructor
  · rintro ⟨_, haddress, _, result, ⟨ps, hps, rfl⟩, hresult, rfl⟩
    exact ⟨haddress, ⟨ps, hps⟩, ⟨result, hresult⟩⟩
  · rintro ⟨haddress, ⟨ps, hps⟩, ⟨result, hresult⟩⟩
    exact ⟨_, haddress, _, result, ⟨ps, hps, rfl⟩, hresult, rfl⟩

theorem arity_of_prepare {f : Function} {address : Address} {iv : Invoker}
    (h : prepare f address = .ok iv) : iv.arity = f.nativeArity := by
  obtain ⟨-, params, result, hparams, -, rfl⟩ := prepare_eq_ok_iff.mp h
  rw [arity, List.length_map, ← Function.length_feeding, ← Function.fed_of_parameters hparams,
    List.length_map]

theorem fed_of_prepare {f : Function} {address : Address} {iv : Invoker}
    (h : prepare f address = .ok iv) : iv.fed = positionsFrom id 0 f.feeding := by
  obtain ⟨-, params, result, hparams, -, rfl⟩ := prepare_eq_ok_iff.mp h
  rw [← Function.fed_of_parameters hparams, positionsFrom_map]
  rfl

theorem outArity_of_prepare {f : Function} {address : Address} {iv : Invoker}
    (h : prepare f address = .ok iv) :
    iv.outArity = f.args.countP Argument.usesOutSlot + f.flags.throws.toNat := by
  rw [outArity, fed_of_prepare h, length_positionsFrom, Function.countP_feeding]

/-- The slots of the block belong to the arguments that use it, in order. -/
theorem getElem?_fed_of_prepare {f : Function} {address : Address} {iv : Invoker} {i : Nat}
    {a : Argument} (h : prepare f address = .ok iv) (ha : f.args[i]? = some a)
    (hslot : a.usesOutSlot = true) :
    iv.fed[(f.args.take i).countP Argument.usesOutSlot]? = some (f.flags.isMethod.toNat + i) := by
  have hi := (List.getElem?_eq_some_iff.mp ha).1
  have hfeed := Function.getElem?_feeding ha
  rw [hslot] at hfeed
  rw [fed_of_prepare h, ← Function.countP_take_feeding (Nat.le_of_lt hi),
    getElem?_positionsFrom hfeed rfl, Nat.zero_add]

/-- The last slot of the block belongs to the error. -/
theorem getElem?_fed_of_throws {f : Function} {address : Address} {iv : Invoker}
    (h : prepare f address = .ok iv) (ht : f.flags.throws = true) :
    iv.fed[f.args.countP Argument.usesOutSlot]? = some (iv.arity - 1) := by
  have hfeed := Function.getElem?_feeding_of_throws ht
  have hcount := Function.countP_take_feeding (f := f) (Nat.le_refl _)
  rw [List.take_length] at hcount
  rw [fed_of_prepare h, ← hcount, getElem?_positionsFrom hfeed rfl, arity_of_prepare h,
    Function.nativeArity, ht]
  exact congrArg some (by simp only [Bool.toNat_true]; omega)

end Invoker

end Introspect
