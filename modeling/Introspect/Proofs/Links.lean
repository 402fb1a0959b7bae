import Introspect.Proofs.RoundTrip

/-!
# Positions a callable refers to

An argument may say that another one carries its data, its release or its length, and a result that
an argument carries its length. The check of a document walks every callable, however it is held,
and every argument of it. It does not look at results: the length of a returned array is the one
reference of an accepted document that may lead nowhere.
-/

namespace Introspect

/-- A callable as it is called: the name it is reported under, its arguments and its result. -/
structure Prototype where
  owner : String
  args : List Argument
  returns : NativeType
deriving Repr, DecidableEq

namespace Prototype

/-- The prototype of a function. -/
def ofFunction (f : Function) : Prototype := ⟨f.symbol, f.args, f.returns⟩

/-- The prototype of a callback. -/
def ofCallback (c : Callback) : Prototype := ⟨c.name, c.args, c.returns⟩

/-- The positions its arguments and its result refer to. -/
def references (p : Prototype) : List Nat :=
  p.args.flatMap Argument.links ++ p.returns.lengthArg.toList

/-- Every position that is referred to has an argument. -/
def Closed (p : Prototype) : Prop := ∀ i ∈ p.references, i < p.args.length

/-- Every position that an argument refers to has an argument. -/
def ArgumentsClosed (p : Prototype) : Prop := ∀ a ∈ p.args, ∀ i ∈ a.links, i < p.args.length

theorem closed_iff (p : Prototype) :
    p.Closed ↔ p.ArgumentsClosed ∧ ∀ i ∈ p.returns.lengthArg, i < p.args.length := by
  constructor
  · intro h
    refine ⟨fun a ha i hi => h i ?_, fun i hi => h i ?_⟩
    · exact List.mem_append_left _ (List.mem_flatMap.mpr ⟨a, ha, hi⟩)
    · exact List.mem_append_right _ (Option.mem_toList.mpr hi)
  · rintro ⟨hargs, hreturns⟩ i hi
    rcases List.mem_append.mp hi with hi | hi
    · obtain ⟨a, ha, hi⟩ := List.mem_flatMap.mp hi
      exact hargs a ha i hi
    · exact hreturns i (Option.mem_toList.mp hi)

end Prototype

/-- Everything in a symbol that can be called. -/
def Info.prototypes : Info → List Prototype
  | .function f => [.ofFunction f]
  | .callback c => [.ofCallback c]
  | .container _ c => c.methods.map .ofFunction
  | .enum _ | .flags _ | .constant _ => []

/-- Every callable of a namespace: its functions, the methods of its containers, its callbacks. -/
def Namespace.prototypes (ns : Namespace) : List Prototype := ns.infos.flatMap Info.prototypes

/-! ## What the check looks at -/

/-- The check misses no callable, but only takes the arguments of each. -/
theorem Info.signatures_eq (info : Info) :
    info.signatures = info.prototypes.map fun p => (p.owner, p.args) := by
  cases info with
  | function f | callback c | enum e | flags e | constant c => rfl
  | container k c =>
      rw [prototypes, List.map_map]
      rfl

namespace Namespace

theorem danglingIn_eq_none_iff {owner : String} {args : List Argument} :
    danglingIn owner args = none ↔ ∀ a ∈ args, ∀ i ∈ a.links, i < args.length := by
  simp [danglingIn, List.findSome?_eq_none_iff, List.find?_eq_none]

theorem danglingIn_eq_some {owner : String} {args : List Argument} {e : DescriptorError}
    (h : danglingIn owner args = some e) :
    ∃ a ∈ args, ∃ i ∈ a.links, args.length ≤ i ∧ e = .dangling owner a.name i args.length := by
  obtain ⟨a, ha, hfind⟩ := List.exists_of_findSome?_eq_some h
  obtain ⟨i, hi, rfl⟩ := Option.map_eq_some_iff.mp hfind
  exact ⟨a, ha, i, List.mem_of_find?_eq_some hi, by simpa using List.find?_some hi, rfl⟩

theorem dangling?_eq_none_iff {ns : Namespace} :
    ns.dangling? = none ↔ ∀ p ∈ ns.prototypes, p.ArgumentsClosed := by
  simp only [dangling?, List.findSome?_eq_none_iff, Info.signatures_eq, List.forall_mem_map,
    danglingIn_eq_none_iff, prototypes, List.forall_mem_flatMap, Prototype.ArgumentsClosed]

theorem validate_eq_ok_iff {ns ns' : Namespace} :
    ns.validate = .ok ns' ↔ ns = ns' ∧ ∀ p ∈ ns.prototypes, p.ArgumentsClosed := by
  rw [← dangling?_eq_none_iff, validate]
  cases ns.dangling? with
  | none => simp
  | some e => simp

/-- Exactly those documents are accepted that can be read and whose arguments refer to arguments. -/
theorem ofText_eq_ok_iff {text : String} {ns : Namespace} :
    ofText text = .ok ns ↔ parse text = .ok ns ∧ ∀ p ∈ ns.prototypes, p.ArgumentsClosed := by
  rw [ofText]
  cases parse text with
  | error f => simp
  | ok read =>
      simp only [validate_eq_ok_iff, Except.ok.injEq]
      constructor
      · rintro ⟨rfl, h⟩
        exact ⟨rfl, h⟩
      · rintro ⟨rfl, h⟩
        exact ⟨rfl, h⟩

/-- What a refused document is said to refer to is really referred to, and is out of range. -/
theorem exists_of_ofText_dangling {text owner argument : String} {i n : Nat}
    (h : ofText text = .error (.dangling owner argument i n)) :
    ∃ ns, parse text = .ok ns ∧ ∃ p ∈ ns.prototypes, p.owner = owner ∧ p.args.length = n ∧
      ∃ a ∈ p.args, a.name = argument ∧ i ∈ a.links ∧ n ≤ i := by
  rw [ofText] at h
  cases hread : parse text with
  | error f =>
      rw [hread] at h
      cases h
  | ok ns =>
      rw [hread] at h
      simp only [validate] at h
      cases hd : ns.dangling? with
      | none =>
          rw [hd] at h
          cases h
      | some e =>
          rw [hd] at h
          cases h
          obtain ⟨info, hinfo, hsig⟩ := List.exists_of_findSome?_eq_some hd
          obtain ⟨⟨owner', args⟩, hmem, hargs⟩ := List.exists_of_findSome?_eq_some hsig
          rw [info.signatures_eq, List.mem_map] at hmem
          obtain ⟨p, hp, hpair⟩ := hmem
          cases hpair
          obtain ⟨a, ha, i', hi', hle, heq⟩ := danglingIn_eq_some hargs
          cases heq
          exact ⟨ns, rfl, p, List.mem_flatMap.mpr ⟨info, hinfo, hp⟩, rfl, rfl, a, ha, rfl, hi', hle⟩

/-- In an accepted document a callable only refers to its own arguments exactly when its result
does: the references of its arguments are in range. -/
theorem closed_iff_of_ofText {text : String} {ns : Namespace} (h : ofText text = .ok ns) :
    ∀ p ∈ ns.prototypes, p.ArgumentsClosed ∧
      (p.Closed ↔ ∀ i ∈ p.returns.lengthArg, i < p.args.length) := by
  intro p hp
  have hargs := (ofText_eq_ok_iff.mp h).2 p hp
  refine ⟨hargs, ?_⟩
  rw [p.closed_iff]
  exact ⟨And.right, fun hreturns => ⟨hargs, hreturns⟩⟩

/-- A function that returns as many numbers as its argument at `n` says; it has one argument. -/
def sizes (n : Nat) : Function :=
  { name := "sizes", symbol := "demo_sizes",
    args := [{ name := "count", type := .scalar .uint32, direction := .out }],
    returns := (NativeType.scalar .int32).cArray (some n) false }

/-- A namespace with a function whose result takes its length from the position. -/
def sizing (n : Nat) : Namespace :=
  { name := "Demo", version := "1.0", infos := [.function (sizes n)] }

theorem ofText_render_sizing {n : Nat} (h : n ≤ countMax) :
    ofText (sizing n).render = .ok (sizing n) := by
  have hfits : (sizing n).Fits := by
    simpa [sizing, sizes, Fits, Info.Fits, Function.Fits, Argument.Fits, NativeType.Fits,
      Shape.Fits, NativeType.scalar, NativeType.cArray] using h
  have hfloat : ∀ i ∈ (sizing n).infos, i.FloatFree := by simp [sizing, Info.FloatFree]
  have hdepth : (sizing n).toJson.depth = 6 := rfl
  rw [ofText, parse_render hfits hfloat (by rw [hdepth]; decide)]
  rfl

theorem closed_sizes : (Prototype.ofFunction (sizes 0)).Closed := by
  have hmem : Prototype.ofFunction (sizes 0) ∈ (sizing 0).prototypes := List.mem_cons_self
  refine (closed_iff_of_ofText (ofText_render_sizing (by decide)) _ hmem).2.mpr fun i hi => ?_
  cases hi
  exact Nat.zero_lt_one

/-- An accepted document whose function takes the length of its result from a fourth argument. -/
theorem not_closed_sizing : ∃ text, ofText text = .ok (sizing 3) ∧
    ¬ ∀ p ∈ (sizing 3).prototypes, p.Closed := by
  refine ⟨_, ofText_render_sizing (by decide), fun h => ?_⟩
  have hlt : 3 < 1 := h _ List.mem_cons_self 3 List.mem_cons_self
  exact absurd hlt (by decide)

end Namespace

end Introspect
