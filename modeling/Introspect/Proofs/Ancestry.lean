import Introspect.Native.Wrappers
import Introspect.Proofs.Tables
import Mathlib.Data.Fintype.Card
import Mathlib.Logic.Function.Iterate

/-!
# The most derived wrapper

A registry of wrappers grows by registrations, and by a way to ask for the parents of types. What an
instance is given can be read off that history: walking up from the instance's type, the first type
that something was registered for decides, by the wrapper registered last; and where the walk comes
to no type first, the fallback does.

The table of a registry has to do with its history what `Mirrors` says, and every change keeps it.
That the walk asks for so many types at most makes no difference. Up to where it ends the types are
distinct: had one come back, the walk would go round for ever, past a type that it cannot go past.
So there are fewer of them than there are types (`EndsAt.lt_typeCount`), and a walk that ends is
never cut short (`EndsAt.nearest`).
-/

namespace Introspect

namespace WrapperRegistry

variable {α : Type}

/-! ## Histories -/

/-- What changes the wrappers a registry knows, or the types it takes to be parents. -/
inductive Change (α : Type) where
  | register (t : TypeId) (wrapper : α)
  | setParents (parentOf : TypeId → TypeId)

namespace Change

/-- The wrapper that is registered for a type. -/
def wrapper? (t : TypeId) : Change α → Option α
  | .register u w => if u = t then some w else none
  | .setParents _ => none

/-- The parents that a change sets. -/
def parents? : Change α → Option (TypeId → TypeId)
  | .register .. => none
  | .setParents f => some f

end Change

/-- A registry after a change. -/
def change (r : WrapperRegistry α) : Change α → WrapperRegistry α
  | .register t w => r.register t w
  | .setParents f => r.setParents f

/-- A new registry after some changes. -/
def after (changes : List (Change α)) : WrapperRegistry α := changes.foldl change {}

/-- The wrapper last registered for a type. -/
def last? (changes : List (Change α)) (t : TypeId) : Option α :=
  (changes.filterMap (Change.wrapper? t)).getLast?

/-- The way to ask for parents that was given last. -/
def lastParents? (changes : List (Change α)) : Option (TypeId → TypeId) :=
  (changes.filterMap Change.parents?).getLast?

/-- A type, its parent, its parent's parent and so on; nothing has a parent while there is no way to
ask for it. -/
def ancestor (changes : List (Change α)) (t : TypeId) (k : Nat) : TypeId :=
  ((lastParents? changes).getD fun _ => {})^[k] t

section
variable (changes : List (Change α)) (c : Change α)

theorem last?_concat (t : TypeId) :
    last? (changes ++ [c]) t = (c.wrapper? t).or (last? changes t) := by
  unfold last?
  cases hc : c.wrapper? t with
  | none => rw [filterMap_append_of_none hc, Option.none_or]
  | some w => rw [filterMap_append_of_some hc, List.getLast?_concat, Option.some_or]

theorem lastParents?_concat :
    lastParents? (changes ++ [c]) = c.parents?.or (lastParents? changes) := by
  unfold lastParents?
  cases hc : c.parents? with
  | none => rw [filterMap_append_of_none hc, Option.none_or]
  | some f => rw [filterMap_append_of_some hc, List.getLast?_concat, Option.some_or]

end

/-- A registry has the wrappers registered last, and asks for parents in the way given last. -/
structure Mirrors (changes : List (Change α)) (r : WrapperRegistry α) : Prop where
  wrappers : ∀ t, t.isValid = true → r.wrappers.lookup t = last? changes t
  parents : r.parentOf = lastParents? changes

namespace Mirrors

variable {changes : List (Change α)} {r : WrapperRegistry α}

theorem empty : Mirrors ([] : List (Change α)) {} := ⟨fun _ _ => rfl, rfl⟩

theorem change (h : Mirrors changes r) (c : Change α) : Mirrors (changes ++ [c]) (r.change c) := by
  cases c with
  | register t w =>
      have hother : ∀ u, u.isValid = true → u ≠ t →
          r.wrappers.lookup u = last? (changes ++ [.register t w]) u := by
        intro u hu hne
        rw [last?_concat, Change.wrapper?, if_neg hne.symm, Option.none_or, h.wrappers u hu]
      have hparents : r.parentOf = lastParents? (changes ++ [.register t w]) := by
        rw [lastParents?_concat, h.parents]
        rfl
      by_cases ht : t.isValid = true
      · rw [WrapperRegistry.change, register, if_pos ht]
        refine ⟨fun u hu => ?_, hparents⟩
        rw [lookup_cons_eq_ite]
        by_cases hut : u = t
        · rw [if_pos hut, last?_concat, Change.wrapper?, if_pos hut.symm, Option.some_or]
        · rw [if_neg hut, lookup_filter_ne hut]
          exact hother u hu hut
      · rw [WrapperRegistry.change, register, if_neg ht]
        exact ⟨fun u hu => hother u hu fun hut => ht (hut ▸ hu), hparents⟩
  | setParents f =>
      constructor
      · intro u hu
        rw [last?_concat]
        exact h.wrappers u hu
      · rw [lastParents?_concat]
        rfl

theorem after (changes : List (Change α)) : Mirrors changes (WrapperRegistry.after changes) := by
  induction changes using List.reverseRecOn with
  | nil => exact .empty
  | append_singleton changes c ih =>
      rw [WrapperRegistry.after, List.foldl_concat]
      exact ih.change c

theorem iterate_parent (h : Mirrors changes r) (t : TypeId) (k : Nat) :
    r.parent^[k] t = ancestor changes t k := by
  have hparent : r.parent = (lastParents? changes).getD fun _ => {} := by
    funext u
    rw [parent, h.parents]
    cases lastParents? changes <;> rfl
  rw [hparent, ancestor]

end Mirrors

/-- A registration for what is no type leaves no trace. -/
theorem after_register_of_not_isValid (before rest : List (Change α)) {t : TypeId} (w : α)
    (ht : t.isValid = false) : after (before ++ .register t w :: rest) =
    after (before ++ rest) := by
  have hregister : ∀ r : WrapperRegistry α, r.change (.register t w) = r := fun r =>
    if_neg (ht ▸ Bool.false_ne_true)
  rw [after, after, List.foldl_append, List.foldl_append, List.foldl_cons, hregister]

/-! ## Walks -/

/-- The walk up from a type, with no limit to its length, comes to an end and finds this wrapper. -/
inductive Walks (r : WrapperRegistry α) : TypeId → Option α → Prop
  | none {t : TypeId} (ht : t.isValid = false) : Walks r t none
  | found {t : TypeId} {w : α} (ht : t.isValid = true) (hw : r.wrappers.lookup t = some w) :
      Walks r t (some w)
  | up {t : TypeId} {found : Option α} (ht : t.isValid = true) (hw : r.wrappers.lookup t = .none)
      (h : Walks r (r.parent t) found) : Walks r t found

/-- A type that ends a walk: no type, or one with a wrapper. -/
def Stops (r : WrapperRegistry α) (t : TypeId) : Prop :=
  t.isValid = false ∨ (r.wrappers.lookup t).isSome = true

/-- The wrapper a walk that ends at this type has found. -/
def foundAt (r : WrapperRegistry α) (t : TypeId) : Option α :=
  if t.isValid then r.wrappers.lookup t else none

/-- The first of a type's ancestors to end the walk up from it. -/
structure EndsAt (r : WrapperRegistry α) (t : TypeId) (k : Nat) : Prop where
  before : ∀ j < k, ¬r.Stops (r.parent^[j] t)
  stop : r.Stops (r.parent^[k] t)

variable {r : WrapperRegistry α} {t : TypeId} {k : Nat}

theorem not_stops_iff :
    ¬r.Stops t ↔ t.isValid = true ∧ r.wrappers.lookup t = none := by
  rw [Stops, not_or, Bool.not_eq_false, Bool.not_eq_true, Option.isSome_eq_false_iff,
    Option.isNone_iff_eq_none]

theorem Stops.exists_lookup (h : r.Stops t) (ht : t.isValid = true) :
    ∃ w, r.wrappers.lookup t = some w :=
  Option.isSome_iff_exists.mp (h.resolve_left (by rw [ht]; exact Bool.true_eq_false.mp))

namespace EndsAt

theorem tail (h : r.EndsAt t (k + 1)) : r.EndsAt (r.parent t) k where
  before j hj := by
    rw [← Function.iterate_succ_apply]
    exact h.before (j + 1) (Nat.succ_lt_succ hj)
  stop := by
    rw [← Function.iterate_succ_apply]
    exact h.stop

theorem walks : ∀ {k t}, r.EndsAt t k → r.Walks t (r.foundAt (r.parent^[k] t)) := by
  intro k
  induction k with
  | zero =>
      intro t h
      have hstop : r.Stops t := h.stop
      rw [Function.iterate_zero_apply, foundAt]
      by_cases ht : t.isValid = true
      · obtain ⟨w, hw⟩ := hstop.exists_lookup ht
        rw [if_pos ht, hw]
        exact .found ht hw
      · rw [if_neg ht]
        exact .none (Bool.eq_false_iff.mpr ht)
  | succ k ih =>
      intro t h
      obtain ⟨ht, hw⟩ := not_stops_iff.mp (h.before 0 k.succ_pos)
      exact .up ht hw (ih h.tail)

/-- With a limit beyond its end, a walk finds what it finds with none. -/
theorem nearest : ∀ {k t}, r.EndsAt t k → ∀ {steps}, k < steps →
    r.nearest t steps = r.foundAt (r.parent^[k] t) := by
  intro k
  induction k with
  | zero =>
      intro t h steps hsteps
      obtain ⟨steps, rfl⟩ := Nat.exists_eq_succ_of_ne_zero hsteps.ne'
      have hstop : r.Stops t := h.stop
      rw [WrapperRegistry.nearest, Function.iterate_zero_apply, foundAt]
      by_cases ht : t.isValid = true
      · obtain ⟨w, hw⟩ := hstop.exists_lookup ht
        rw [if_pos ht, if_pos ht, hw]
      · rw [if_neg ht, if_neg ht]
  | succ k ih =>
      intro t h steps hsteps
      obtain ⟨steps, rfl⟩ := Nat.exists_eq_succ_of_ne_zero (Nat.ne_zero_of_lt hsteps)
      have hpass : ¬r.Stops t := h.before 0 k.succ_pos
      obtain ⟨ht, hw⟩ := not_stops_iff.mp hpass
      rw [WrapperRegistry.nearest, if_pos ht, hw]
      exact ih h.tail (Nat.lt_of_succ_lt_succ hsteps)

/-- No type comes twice on the way to the end. -/
theorem ne_of_lt (h : r.EndsAt t k) {i j : Nat} (hij : i < j) (hj : j ≤ k) :
    r.parent^[i] t ≠ r.parent^[j] t := by
  intro heq
  -- What follows `j` follows `i`, and so does the type that ends the walk.
  have hback : r.parent^[k] t = r.parent^[k - j + i] t := by
    calc r.parent^[k] t = r.parent^[k - j + j] t := by rw [Nat.sub_add_cancel hj]
      _ = r.parent^[k - j] (r.parent^[j] t) := Function.iterate_add_apply ..
      _ = r.parent^[k - j] (r.parent^[i] t) := by rw [heq]
      _ = r.parent^[k - j + i] t := (Function.iterate_add_apply ..).symm
  exact h.before (k - j + i) (by omega) (hback ▸ h.stop)

theorem lt_typeCount (h : r.EndsAt t k) : k < typeCount := by
  have hinj : Function.Injective fun i : Fin (k + 1) => (r.parent^[i.val] t).number.toFin := by
    intro i j hij
    have heq : r.parent^[i.val] t = r.parent^[j.val] t := by
      have hnumber := UInt64.toFin_inj.mp hij
      rw [TypeId.mk.injEq]
      exact hnumber
    refine Fin.ext (Decidable.byContradiction fun hne => ?_)
    rcases Nat.lt_or_gt_of_ne hne with hlt | hlt
    · exact h.ne_of_lt hlt (Nat.le_of_lt_succ j.isLt) heq
    · exact h.ne_of_lt hlt (Nat.le_of_lt_succ i.isLt) heq.symm
  have hcard := Fintype.card_le_of_injective _ hinj
  rwa [Fintype.card_fin, Fintype.card_fin] at hcard

theorem resolve (h : r.EndsAt t k) : r.resolve t = r.foundAt (r.parent^[k] t) :=
  h.nearest h.lt_typeCount

end EndsAt

/-! ## Instances -/

section Instances

variable {β : Type} (changes : List (Change (Address → β))) (m : Memory) (p : Address)
  (fallback : Address → β)

/-- The types before an instance's ancestor number `k` are types that nothing was registered for. -/
def PassesTo (k : Nat) : Prop :=
  ∀ j < k, (ancestor changes (m.instanceAt p).type j).isValid = true ∧
    last? changes (ancestor changes (m.instanceAt p).type j) = none

/-- What the instance at an address is given after some changes. -/
structure MostDerived : Prop where
  none_iff : (after changes).wrapAt m p fallback = none ↔ p = 0
  /-- The walk comes to an end, and what it finds is what counts. -/
  walks : p ≠ 0 → ∃ found, (after changes).Walks (m.instanceAt p).type found ∧
    (after changes).wrapAt m p fallback = some (found.getD fallback p)
  /-- The first type that something was registered for gives its wrapper, the one registered
  last. -/
  registered : p ≠ 0 → ∀ k w, PassesTo changes m p k →
    (ancestor changes (m.instanceAt p).type k).isValid = true →
      last? changes (ancestor changes (m.instanceAt p).type k) = some w →
        (after changes).wrapAt m p fallback = some (w p)
  /-- Where there is none, the fallback is used. -/
  exhausted : p ≠ 0 → ∀ k, PassesTo changes m p k →
    (ancestor changes (m.instanceAt p).type k).isValid = false →
      (after changes).wrapAt m p fallback = some (fallback p)
  unclassed : p ≠ 0 → m.load p 0 8 = 0 →
    (after changes).wrapAt m p fallback = some (fallback p)
  /-- With no way to ask for parents, only the instance's own type counts. -/
  unparented : p ≠ 0 → lastParents? changes = none →
    last? changes (m.instanceAt p).type = none →
      (after changes).wrapAt m p fallback = some (fallback p)
  ignored : ∀ before rest t w, changes = before ++ .register t w :: rest → t.isValid = false →
    after changes = after (before ++ rest)

variable {changes m p}

theorem instanceAt_of_ne_null (hp : p ≠ 0) : m.instanceAt p ≠ .null := by
  rw [Memory.instanceAt, if_neg hp]
  split <;> exact nofun

theorem wrapAt_of_ne_null (r : WrapperRegistry (Address → β)) (hp : p ≠ 0) :
    r.wrapAt m p fallback = some ((r.resolve (m.instanceAt p).type).getD fallback p) := by
  have hwrap : r.wrap (m.instanceAt p) fallback =
      some ((r.resolve (m.instanceAt p).type).getD fallback) := by
    cases hi : m.instanceAt p with
    | null => exact absurd hi (instanceAt_of_ne_null hp)
    | unclassed | of => rfl
  rw [wrapAt, hwrap, Option.map_some]

theorem wrapAt_null (r : WrapperRegistry (Address → β)) : r.wrapAt m 0 fallback = none := rfl

/-- Past types that nothing was registered for, the walk ends at the next that stops it. -/
theorem PassesTo.wrapAt {k : Nat} (hpass : PassesTo changes m p k) (hp : p ≠ 0)
    (hstop : (ancestor changes (m.instanceAt p).type k).isValid = false ∨
      (last? changes (ancestor changes (m.instanceAt p).type k)).isSome = true) :
    (after changes).Walks (m.instanceAt p).type
        ((after changes).foundAt (ancestor changes (m.instanceAt p).type k)) ∧
      (after changes).wrapAt m p fallback =
        some (((after changes).foundAt (ancestor changes (m.instanceAt p).type k)).getD
          fallback p) := by
  have hmirrors := Mirrors.after changes
  have hends : (after changes).EndsAt (m.instanceAt p).type k := by
    constructor
    · intro j hj
      rw [hmirrors.iterate_parent, not_stops_iff]
      obtain ⟨hvalid, hnone⟩ := hpass j hj
      exact ⟨hvalid, (hmirrors.wrappers _ hvalid).trans hnone⟩
    · rw [hmirrors.iterate_parent, Stops]
      by_cases hvalid : (ancestor changes (m.instanceAt p).type k).isValid = true
      · rw [hmirrors.wrappers _ hvalid]
        exact hstop
      · exact .inl (Bool.eq_false_iff.mpr hvalid)
  rw [wrapAt_of_ne_null fallback _ hp, hends.resolve, ← hmirrors.iterate_parent]
  exact ⟨hends.walks, rfl⟩

theorem exists_passesTo
    (h : ∃ k, (ancestor changes (m.instanceAt p).type k).isValid = false ∨
      (last? changes (ancestor changes (m.instanceAt p).type k)).isSome = true) :
    ∃ k, PassesTo changes m p k ∧
      ((ancestor changes (m.instanceAt p).type k).isValid = false ∨
        (last? changes (ancestor changes (m.instanceAt p).type k)).isSome = true) := by
  refine ⟨Nat.find h, fun j hj => ?_, Nat.find_spec h⟩
  have hj := Nat.find_min h hj
  rwa [not_or, Bool.not_eq_false, Bool.not_eq_true, Option.isSome_eq_false_iff,
    Option.isNone_iff_eq_none] at hj

/-- An instance whose ancestors come to one that something was registered for, or to none, is given
the wrapper of the most derived of its types that has one. -/
theorem wrapAt_mostDerived
    (h : p ≠ 0 → ∃ k, (ancestor changes (m.instanceAt p).type k).isValid = false ∨
      (last? changes (ancestor changes (m.instanceAt p).type k)).isSome = true) :
    MostDerived changes m p fallback := by
  have hexhausted : p ≠ 0 → ∀ k, PassesTo changes m p k →
      (ancestor changes (m.instanceAt p).type k).isValid = false →
        (after changes).wrapAt m p fallback = some (fallback p) := by
    intro hp k hpass hinvalid
    rw [(hpass.wrapAt fallback hp (.inl hinvalid)).2, foundAt, hinvalid]
    rfl
  constructor
  case none_iff =>
    constructor
    · intro hnone
      refine Decidable.byContradiction fun hp => ?_
      rw [wrapAt_of_ne_null fallback _ hp] at hnone
      cases hnone
    · rintro rfl
      exact wrapAt_null fallback _
  case walks =>
    intro hp
    obtain ⟨k, hpass, hstop⟩ := exists_passesTo (h hp)
    exact ⟨_, hpass.wrapAt fallback hp hstop⟩
  case registered =>
    intro hp k w hpass hvalid hw
    have hfound := (Mirrors.after changes).wrappers _ hvalid
    rw [(hpass.wrapAt fallback hp (.inr (by rw [hw]; rfl))).2, foundAt, if_pos hvalid, hfound, hw]
    rfl
  case exhausted => exact hexhausted
  case unclassed =>
    intro hp hclass
    have htype : (m.instanceAt p).type = {} := by
      rw [Memory.instanceAt, if_neg hp, if_pos hclass]
      rfl
    refine hexhausted hp 0 (fun _ hj => absurd hj (Nat.not_lt_zero _)) ?_
    rw [htype]
    rfl
  case unparented =>
    intro hp hparents hnone
    by_cases hvalid : (m.instanceAt p).type.isValid = true
    · refine hexhausted hp 1 (fun j hj => ?_) ?_
      · obtain rfl : j = 0 := Nat.lt_one_iff.mp hj
        exact ⟨hvalid, hnone⟩
      · rw [ancestor, hparents]
        rfl
    · exact hexhausted hp 0 (fun _ hj => absurd hj (Nat.not_lt_zero _))
        (Bool.eq_false_iff.mpr hvalid)
  case ignored =>
    rintro before rest t w rfl ht
    exact after_register_of_not_isValid before rest w ht

end Instances

/-- An instance of a type nothing was registered for, whose parent had two wrappers registered. -/
theorem wrapAt_mostDerived_parent :
    ∃ (changes : List (Change (Address → String × Address))) (m : Memory) (p : Address),
      (p ≠ 0 → ∃ k, (ancestor changes (m.instanceAt p).type k).isValid = false ∨
        (last? changes (ancestor changes (m.instanceAt p).type k)).isSome = true) ∧
        last? changes (m.instanceAt p).type = none ∧
          (after changes).wrapAt m p (fun p => ("Object", p)) = some ("Button", p) := by
  let parentOf (t : TypeId) : TypeId :=
    if t = ⟨300⟩ then ⟨200⟩ else if t = ⟨200⟩ then ⟨100⟩ else {}
  let changes : List (Change (Address → String × Address)) :=
    [.register ⟨100⟩ fun p => ("Widget", p), .register ⟨200⟩ fun p => ("Label", p),
      .setParents parentOf, .register {} fun p => ("None", p),
      .register ⟨200⟩ fun p => ("Button", p)]
  let m : Memory := { blocks := [(16, bytesOfWord 8 32), (32, bytesOfWord 8 300)] }
  have hends : (16 : Address) ≠ 0 →
      ∃ k, (ancestor changes (m.instanceAt 16).type k).isValid = false ∨
        (last? changes (ancestor changes (m.instanceAt 16).type k)).isSome = true :=
    fun _ => ⟨1, .inr rfl⟩
  refine ⟨changes, m, 16, hends, rfl, ?_⟩
  refine (wrapAt_mostDerived _ hends).registered (by decide) 1 _ ?_ rfl rfl
  intro j hj
  obtain rfl : j = 0 := Nat.lt_one_iff.mp hj
  exact ⟨rfl, rfl⟩

end WrapperRegistry

end Introspect
