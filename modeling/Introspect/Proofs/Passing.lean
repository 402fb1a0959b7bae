import Introspect.Proofs.Preparation

/-!
# What a call passes

A prepared call has its slots given to it in one vector, and the values that travel through the out
block in another. Before the call the slots at the fed positions are pointed at the block, one after
another; every other slot is passed as the caller filled it, and so are all of them if there is no
block. This is safe because of what preparation knows about the positions: they ascend, so no slot
is pointed twice and the first one pointed keeps its address, and they are positions of parameters
that are pointers, so the callee is given each address whole.
-/

namespace Introspect

/-! ## Ascending positions -/

theorem mem_positionsFrom_iff {α : Type} {p : α → Bool} {xs : List α} :
    ∀ {start n : Nat}, n ∈ positionsFrom p start xs ↔
      ∃ i x, xs[i]? = some x ∧ p x = true ∧ n = start + i := by
  induction xs with
  | nil => intro start n; simp [positionsFrom]
  | cons y ys ih =>
      intro start n
      -- An entry of the tail is found one position further on.
      have htail : n ∈ positionsFrom p (start + 1) ys ↔
          ∃ i x, (y :: ys)[i + 1]? = some x ∧ p x = true ∧ n = start + (i + 1) := by
        rw [ih]
        simp only [List.getElem?_cons_succ]
        constructor
        · rintro ⟨i, x, hx, hp, rfl⟩
          exact ⟨i, x, hx, hp, by omega⟩
        · rintro ⟨i, x, hx, hp, rfl⟩
          exact ⟨i, x, hx, hp, by omega⟩
      rw [positionsFrom]
      constructor
      · intro h
        split at h
        · next hy =>
            rcases List.mem_cons.mp h with rfl | h
            · exact ⟨0, y, rfl, hy, rfl⟩
            · obtain ⟨i, hi⟩ := htail.mp h
              exact ⟨i + 1, hi⟩
        · obtain ⟨i, hi⟩ := htail.mp h
          exact ⟨i + 1, hi⟩
      · rintro ⟨i, x, hx, hp, hn⟩
        cases i with
        | zero =>
            cases hx
            rw [if_pos hp]
            exact List.mem_cons.mpr (.inl hn)
        | succ i =>
            have hmem := htail.mpr ⟨i, x, hx, hp, hn⟩
            split
            · exact List.mem_cons_of_mem _ hmem
            · exact hmem

theorem pairwise_positionsFrom {α : Type} (p : α → Bool) (xs : List α) :
    ∀ start, (positionsFrom p start xs).Pairwise (· < ·) := by
  induction xs with
  | nil => intro start; exact .nil
  | cons x xs ih =>
      intro start
      rw [positionsFrom]
      split
      · refine .cons (fun n hn => ?_) (ih _)
        obtain ⟨i, -, -, -, rfl⟩ := mem_positionsFrom_iff.mp hn
        omega
      · exact ih _

theorem Function.nativeArity_eq (f : Function) :
    f.nativeArity = f.flags.isMethod.toNat + f.args.length + f.flags.throws.toNat := by
  unfold nativeArity
  omega

/-- The out block feeds the arguments that use it, and the place for an error. -/
theorem Function.feeding_iff {f : Function} {n : Nat} :
    f.feeding[n]? = some true ↔
      (∃ i a, f.args[i]? = some a ∧ a.usesOutSlot = true ∧ n = f.flags.isMethod.toNat + i) ∨
        (f.flags.throws = true ∧ n + 1 = f.nativeArity) := by
  have harity := f.nativeArity_eq
  constructor
  · intro h
    have hn := (List.getElem?_eq_some_iff.mp h).1
    rw [length_feeding, harity] at hn
    -- The position is that of the instance, of an argument, or of the error.
    by_cases hfirst : n < f.flags.isMethod.toNat
    · cases hmethod : f.flags.isMethod with
      | false => rw [hmethod] at hfirst; cases hfirst
      | true =>
          obtain rfl : n = 0 := by rw [hmethod] at hfirst; exact Nat.lt_one_iff.mp hfirst
          rw [feeding, hmethod] at h
          cases h
    · by_cases harg : n - f.flags.isMethod.toNat < f.args.length
      · have ha := List.getElem?_eq_getElem harg
        have hfeed := getElem?_feeding ha
        rw [Nat.add_sub_cancel' (Nat.le_of_not_lt hfirst), h] at hfeed
        exact .inl ⟨_, _, ha, (Option.some.inj hfeed).symm, by omega⟩
      · cases hthrows : f.flags.throws with
        | false => rw [hthrows, Bool.toNat_false] at hn; omega
        | true =>
            rw [hthrows, Bool.toNat_true] at hn harity
            exact .inr ⟨rfl, by omega⟩
  · rintro (⟨i, a, ha, hslot, rfl⟩ | ⟨hthrows, hn⟩)
    · rw [getElem?_feeding ha, hslot]
    · rw [hthrows, Bool.toNat_true] at harity
      obtain rfl : n = f.flags.isMethod.toNat + f.args.length := by omega
      exact getElem?_feeding_of_throws hthrows

/-! ## Pointing slots at the block -/

namespace Invoker

theorem length_pointAt (base : Address) (positions : List Nat) :
    ∀ (k : Nat) (args : List Slot), (pointAt base k positions args).length = args.length := by
  induction positions with
  | nil => intro k args; rfl
  | cons p rest ih => intro k args; rw [pointAt, ih, List.length_set]

/-- A slot at no position is passed as it was. -/
theorem getElem?_pointAt_of_not_mem {base : Address} {n : Nat} {positions : List Nat} :
    ∀ {k : Nat} {args : List Slot}, n ∉ positions →
      (pointAt base k positions args)[n]? = args[n]? := by
  induction positions with
  | nil => intro k args _; rfl
  | cons p rest ih =>
      intro k args h
      rw [List.mem_cons, not_or] at h
      rw [pointAt, ih h.2, List.getElem?_set_ne (Ne.symm h.1)]

/-- The slot at each position is pointed at its own slot of the block. -/
theorem getElem?_pointAt {base : Address} {n : Nat} {positions : List Nat} :
    ∀ {k j : Nat} {args : List Slot}, positions.Nodup → positions[j]? = some n → n < args.length →
      (pointAt base k positions args)[n]? = some (.of .ptr (Memory.slotAddress base (k + j))) := by
  induction positions with
  | nil => intro k j args _ h; cases h
  | cons p rest ih =>
      intro k j args hnodup h hn
      rw [List.nodup_cons] at hnodup
      rw [pointAt]
      cases j with
      | zero =>
          cases h
          -- No later position is this one, so the address stays.
          rw [getElem?_pointAt_of_not_mem hnodup.1, List.getElem?_set_self hn]
          rfl
      | succ j =>
          rw [ih hnodup.2 h (by rwa [List.length_set])]
          congr 3
          omega

/-- The words that the callee is given for the slots of a call. -/
def words (iv : Invoker) (slots : List Slot) : List UInt64 :=
  List.zipWith (fun c (s : Slot) => c.widen s.bits) iv.params slots

theorem getElem?_words {iv : Invoker} {slots : List Slot} {p : Nat} {c : Carrier} {s : Slot}
    (hc : iv.params[p]? = some c) (hs : slots[p]? = some s) :
    (iv.words slots)[p]? = some (c.widen s.bits) := by
  rw [words, List.getElem?_zipWith, hc, hs]

/-- How the slots of a call are passed. -/
structure Passes (iv : Invoker) (args : List Slot) (block : Option Address) : Prop where
  length : (iv.passed args block).length = args.length
  /-- With no block all slots are passed as they are. -/
  alone : block = none → iv.passed args block = args
  /-- With a block each fed slot is passed as the address of its slot there. -/
  pointed : ∀ base, block = some base → ∀ k p, iv.fed[k]? = some p →
    (iv.passed args block)[p]? = some (Slot.of .ptr (Memory.slotAddress base k))
  /-- No other slot is touched. -/
  kept : ∀ p, p ∉ iv.fed → (iv.passed args block)[p]? = args[p]?
  /-- What is passed is all the callee is given, each slot by the carrier at its position. -/
  given : ∀ (p : Nat) (c : Carrier) (s : Slot), iv.params[p]? = some c →
    (iv.passed args block)[p]? = some s → (iv.words (iv.passed args block))[p]? =
    some (c.widen s.bits)
  called : ∀ run result m, iv.call run args block result m =
    (iv.result.deliver (run (iv.words (iv.passed args block)) m).1 result,
      (run (iv.words (iv.passed args block)) m).2)

theorem passes_of_ascending {iv : Invoker} {args : List Slot} (block : Option Address)
    (hascending : iv.fed.Pairwise (· < ·)) (hwithin : ∀ p ∈ iv.fed, p < args.length) :
    iv.Passes args block where
  length := by
    cases block with
    | none => rfl
    | some base => exact length_pointAt base iv.fed 0 args
  alone h := by rw [h]; rfl
  pointed base h k p hp := by
    have hnodup : iv.fed.Nodup := hascending.imp Nat.ne_of_lt
    subst h
    rw [passed, getElem?_pointAt hnodup hp (hwithin p (List.mem_of_getElem? hp)), Nat.zero_add]
  kept p hp := by
    cases block with
    | none => rfl
    | some base => exact getElem?_pointAt_of_not_mem hp
  given _ _ _ := getElem?_words
  called _ _ _ := rfl

end Invoker

/-! ## What preparation lays out -/

/-- What a prepared function is called with, read off its description. -/
structure Invoker.LaysOut (iv : Invoker) (f : Function) : Prop where
  arity : iv.arity = f.nativeArity
  ascending : iv.fed.Pairwise (· < ·)
  within : ∀ p ∈ iv.fed, p < iv.arity
  /-- The block feeds the arguments that use it, and the last place if that is for an error. -/
  mem_fed : ∀ p, p ∈ iv.fed ↔
    (∃ i a, f.args[i]? = some a ∧ a.usesOutSlot = true ∧ p = f.flags.isMethod.toNat + i) ∨
      (f.flags.throws = true ∧ p + 1 = iv.arity)
  /-- A fed position is carried as a pointer, so the address arrives whole. -/
  pointer : ∀ p ∈ iv.fed, iv.params[p]? = some .pointer

namespace Parameter

theorem carrier_of_fed {a : Argument} {p : Parameter} (h : ofArgument a = .ok p)
    (hfed : p.fed = true) : p.carrier = .pointer := by
  have hslot := fed_of_ofArgument h
  rw [ofArgument, if_pos (hslot.symm.trans hfed)] at h
  cases h
  rfl

theorem carrier_of_mapM {args : List Argument} :
    ∀ {ps : List Parameter}, args.mapM ofArgument = .ok ps →
      ∀ p ∈ ps, p.fed = true → p.carrier = .pointer := by
  induction args with
  | nil => intro ps h p hp; cases h; cases hp
  | cons a rest ih =>
      intro ps h
      obtain ⟨q, qs, hq, hqs, rfl⟩ := mapM_ofArgument_cons.mp h
      exact List.forall_mem_cons.mpr ⟨carrier_of_fed hq, ih hqs⟩

end Parameter

theorem Function.carrier_of_parameters {f : Function} {params : List Parameter}
    (h : f.parameters = .ok params) : ∀ p ∈ params, p.fed = true → p.carrier = .pointer := by
  obtain ⟨ps, hps, rfl⟩ := Function.parameters_eq_ok_iff.mp h
  intro p hp hfed
  rcases List.mem_append.mp hp with hp | hp
  · rcases List.mem_append.mp hp with hp | hp
    · split at hp
      · cases List.mem_singleton.mp hp
        rfl
      · cases hp
    · exact Parameter.carrier_of_mapM hps p hp hfed
  · split at hp
    · cases List.mem_singleton.mp hp
      rfl
    · cases hp

theorem Invoker.laysOut_of_prepare {f : Function} {address : Address} {iv : Invoker}
    (h : prepare f address = .ok iv) : iv.LaysOut f := by
  have harity := arity_of_prepare h
  have hfed := fed_of_prepare h
  have hmem : ∀ p, p ∈ iv.fed ↔ f.feeding[p]? = some true := by
    intro p
    rw [hfed, mem_positionsFrom_iff]
    simp
  constructor
  case arity => exact harity
  case ascending => rw [hfed]; exact pairwise_positionsFrom _ _ _
  case within =>
    intro p hp
    rw [harity, ← f.length_feeding]
    exact (List.getElem?_eq_some_iff.mp ((hmem p).mp hp)).1
  case mem_fed => intro p; rw [hmem, Function.feeding_iff, harity]
  case pointer =>
    intro p hp
    obtain ⟨-, params, result, hparams, -, rfl⟩ := prepare_eq_ok_iff.mp h
    obtain ⟨i, x, hx, hfed, rfl⟩ := mem_positionsFrom_iff.mp hp
    have hcarrier := Function.carrier_of_parameters hparams x (List.mem_of_getElem? hx) hfed
    rw [Nat.zero_add, List.getElem?_map, hx, Option.map_some, hcarrier]

/-! ## What preparation refuses -/

namespace Parameter

theorem ofArgument_eq_error {a : Argument} {cause : LayoutFailure}
    (h : ofArgument a = .error cause) : a.direction = .in ∧ Carrier.of a.type = .error cause := by
  unfold ofArgument at h
  split at h
  · cases h
  · split at h
    · next hin =>
        cases hk : Carrier.of a.type with
        | error e => rw [hk] at h; cases h; exact ⟨hin, rfl⟩
        | ok k => rw [hk] at h; cases h
    · cases h
    · cases h

theorem exists_of_mapM_eq_error {cause : LayoutFailure} {args : List Argument} :
    args.mapM ofArgument = .error cause →
      ∃ a ∈ args, a.direction = .in ∧ Carrier.of a.type = .error cause := by
  induction args with
  | nil => intro h; cases h
  | cons a rest ih =>
      intro h
      rw [List.mapM_cons] at h
      cases ha : ofArgument a with
      | error e =>
          rw [ha] at h
          cases h
          exact ⟨a, List.mem_cons_self, ofArgument_eq_error ha⟩
      | ok p =>
          cases hrest : rest.mapM ofArgument with
          | error e =>
              rw [ha, hrest] at h
              cases h
              obtain ⟨b, hb, hcause⟩ := ih hrest
              exact ⟨b, List.mem_cons_of_mem _ hb, hcause⟩
          | ok ps => rw [ha, hrest] at h; cases h

end Parameter

theorem Function.exists_of_parameters_eq_error {f : Function} {cause : LayoutFailure}
    (h : f.parameters = .error cause) :
    ∃ a ∈ f.args, a.direction = .in ∧ Carrier.of a.type = .error cause := by
  refine Parameter.exists_of_mapM_eq_error ?_
  cases hps : f.args.mapM Parameter.ofArgument with
  | error e => rw [parameters, hps] at h; cases h; rfl
  | ok ps => rw [parameters, hps] at h; cases h

/-- A carrier is never refused for a position. -/
theorem Carrier.of_ne_outPosition {t : NativeType} {position arity : Nat} :
    Carrier.of t ≠ .error (.outPosition position arity) := by
  unfold Carrier.of
  split
  · exact nofun
  · cases t.tag with
    | interface =>
        cases t.reference with
        | none => exact nofun
        | some r => dsimp only; split <;> exact nofun
    | _ => exact nofun

namespace Invoker

/-- Preparation is refused for a carrier that an input or the result has not, or for the null
pointer. -/
theorem prepare_eq_error {f : Function} {address : Address} {e : CallFailure}
    (h : prepare f address = .error e) :
    ∃ cause, e = .layout f.symbol cause ∧ (cause = .nullFunction ∨
      Carrier.of f.returns = .error cause ∨
        ∃ a ∈ f.args, a.direction = .in ∧ Carrier.of a.type = .error cause) := by
  cases hparams : f.parameters with
  | error cause =>
      rw [prepare, hparams] at h
      cases h
      exact ⟨cause, rfl, .inr (.inr (Function.exists_of_parameters_eq_error hparams))⟩
  | ok params =>
      cases hresult : Carrier.of f.returns with
      | error cause =>
          rw [prepare, hparams, hresult] at h
          cases h
          exact ⟨cause, rfl, .inr (.inl rfl)⟩
      | ok result =>
          by_cases haddress : address = 0
          · rw [prepare, hparams, hresult, haddress] at h
            cases h
            exact ⟨_, rfl, .inl rfl⟩
          · have hok := prepare_eq_ok_iff.mpr ⟨haddress, params, result, hparams, hresult, rfl⟩
            rw [hok] at h
            cases h

/-- Preparation succeeds exactly where the result and every input have a carrier, at any address but
the null pointer, and never fails for a position. A prepared function is laid out as it is
described, and a call passes the slots at the fed positions as addresses in the block and the others
as they are. -/
theorem prepare_passes (f : Function) (address : Address) :
    ((∃ iv, prepare f address = .ok iv) ↔ address ≠ 0 ∧ (∃ k, Carrier.of f.returns = .ok k) ∧
      ∀ a ∈ f.args, a.direction = .in → ∃ k, Carrier.of a.type = .ok k) ∧
    (∀ symbol position arity,
      prepare f address ≠ .error (.layout symbol (.outPosition position arity))) ∧
    ∀ iv, prepare f address = .ok iv →
      iv.LaysOut f ∧ ∀ args block, args.length = iv.arity → iv.Passes args block := by
  refine ⟨?_, ?_, ?_⟩
  · rw [exists_prepare_iff, and_comm (a := ∃ k, _)]
  · intro symbol position arity h
    obtain ⟨cause, he, hcause⟩ := prepare_eq_error h
    cases he
    rcases hcause with hnull | hreturns | ⟨a, -, -, ha⟩
    · cases hnull
    · exact Carrier.of_ne_outPosition hreturns
    · exact Carrier.of_ne_outPosition ha
  · intro iv h
    have hlaid := laysOut_of_prepare h
    refine ⟨hlaid, fun args block hargs => passes_of_ascending block hlaid.ascending ?_⟩
    intro p hp
    rw [hargs]
    exact hlaid.within p hp

/-! ## A method that reads into a buffer -/

/-- The caller provides the buffer; the count read and the new offset go through the block. -/
def reading : Function :=
  { name := "read", symbol := "demo_read", flags := { isMethod := true, throws := true }
    args := [
      { name := "count", type := .scalar .int32 },
      { name := "buffer", direction := .out, callerAllocates := true
        type := .cArray (.scalar .uint8) (some 0) false },
      { name := "done", direction := .out, type := .scalar .int32 },
      { name := "offset", direction := .inout, type := .scalar .int64 }] }

/-- The instance, the count and the buffer; the other slots are empty. -/
def readingArgs : List Slot := [.of .ptr 16, .of .i32 8, .of .ptr 32, {}, {}, {}]

theorem prepare_passes_reading :
    ∃ iv, prepare reading 64 = .ok iv ∧ iv.fed = [3, 4, 5] ∧ readingArgs.length = iv.arity ∧
      iv.passed readingArgs (some 4096) =
        [.of .ptr 16, .of .i32 8, .of .ptr 32, .of .ptr 4096, .of .ptr 4104, .of .ptr 4112] ∧
      iv.LaysOut reading ∧ iv.Passes readingArgs (some 4096) :=
  ⟨_, rfl, rfl, rfl, rfl, ((prepare_passes reading 64).2.2 _ rfl).1,
    ((prepare_passes reading 64).2.2 _ rfl).2 readingArgs (some 4096) rfl⟩

end Invoker

end Introspect
