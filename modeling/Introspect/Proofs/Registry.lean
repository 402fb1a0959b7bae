import Introspect.Native.Closures
import Introspect.Proofs.Tables
import Mathlib.Data.Set.Card
import Mathlib.Data.List.Nodup

/-!
# What a handle stands for

A registry is asked by the host, which registers closures and takes them back, and by native code,
which looks handles up whenever it likes, long after a closure is gone or before there is one. What
the registry answers can be read off the answers it has given: a handle stands for the closure it
was given out for until it is taken back.

The counter and the table know nothing of that history. `Tells` is what they have to do with it, and
every operation keeps it as long as the counter has not run through all its values: a number that is
given out must not stand for anything already.
-/

namespace Introspect

namespace ClosureRegistry

variable {α : Type}

/-! ## Operations and their answers -/

/-- What is asked of a registry. -/
inductive Operation (α : Type) where
  | register (f : α) (scope : CallbackScope)
  | unregister (h : Handle)
  | get (h : Handle)
  | contains (h : Handle)
  | size

/-- What a registry answers. -/
inductive Outcome (α : Type) where
  | given (h : Handle)
  | removed (found : Bool)
  | closure (c : Closure α)
  | found (yes : Bool)
  | size (n : Nat)

/-- Whether a closure is registered. -/
def Operation.registers : Operation α → Bool
  | .register .. => true
  | _ => false

/-- The answer to an operation, and the registry then. -/
def perform (r : ClosureRegistry α) : Operation α → Outcome α × ClosureRegistry α
  | .register f scope => (.given (r.register f scope).1, (r.register f scope).2)
  | .unregister h => (.removed (r.unregister h).1, (r.unregister h).2)
  | .get h => (.closure (r.get h), r)
  | .contains h => (.found (r.contains h), r)
  | .size => (.size r.size, r)

/-- The operations with their answers, and the registry after them. -/
def performAll (r : ClosureRegistry α) :
    List (Operation α) → List (Operation α × Outcome α) × ClosureRegistry α
  | [] => ([], r)
  | o :: rest =>
      let (answer, r) := r.perform o
      let (log, r) := r.performAll rest
      ((o, answer) :: log, r)

/-! ## What one operation does to the table -/

theorem lookup_register (r : ClosureRegistry α) (f : α) (scope : CallbackScope) (h : Handle) :
    (r.register f scope).2.live.lookup h =
      if h = r.last + 1 then some ⟨some f, scope⟩ else r.live.lookup h := by
  refine lookup_cons_eq_ite.trans (ite_congr rfl (fun _ => rfl) fun hh => ?_)
  exact lookup_filter_ne hh

theorem lookup_unregister (r : ClosureRegistry α) (k h : Handle) :
    (r.unregister k).2.live.lookup h = if h = k then none else r.live.lookup h := by
  unfold unregister
  by_cases hh : h = k
  · rw [if_pos hh, hh, lookup_filter_self]
  · rw [if_neg hh, lookup_filter_ne hh]

theorem register?_of_counts {arithmetic : Arithmetic} {r : ClosureRegistry α}
    (h : arithmetic.Counts (r.last.toNat + 1)) (f : α) (scope : CallbackScope) :
    r.register? arithmetic f scope = some (r.register f scope) := by
  rw [register?, Arithmetic.word?_of_counts h, Option.map_some]

theorem register?_of_not_counts {arithmetic : Arithmetic} {r : ClosureRegistry α}
    (h : ¬ arithmetic.Counts (r.last.toNat + 1)) (f : α) (scope : CallbackScope) :
    r.register? arithmetic f scope = none := by
  obtain ⟨rfl, hle⟩ := Arithmetic.not_counts h
  rw [register?, Arithmetic.word?_checked_of_le hle, Option.map_none]

/-- What is given up at once leaves what stood under other handles. -/
theorem unregister_register (r : ClosureRegistry α) (f : α) (scope : CallbackScope) :
    ((r.register f scope).2.unregister (r.last + 1)).2 =
      ⟨r.last + 1, r.live.filter (·.1 ≠ r.last + 1)⟩ := by
  unfold register unregister
  dsimp only
  rw [List.filter_cons_of_neg (by simp), List.filter_filter]
  simp

theorem nodup_register {r : ClosureRegistry α} (hr : (r.live.map Prod.fst).Nodup) (f : α)
    (scope : CallbackScope) : ((r.register f scope).2.live.map Prod.fst).Nodup := by
  unfold register
  rw [List.map_cons, List.nodup_cons]
  constructor
  · intro h
    obtain ⟨p, hp, heq⟩ := List.mem_map.mp h
    simp [heq] at hp
  · exact hr.sublist (List.filter_sublist.map _)

theorem nodup_unregister {r : ClosureRegistry α} (hr : (r.live.map Prod.fst).Nodup) (k : Handle) :
    ((r.unregister k).2.live.map Prod.fst).Nodup :=
  hr.sublist (List.filter_sublist.map _)

/-! ## What the answers tell -/

/-- The handle that was given out. -/
def given? : Operation α × Outcome α → Option Handle
  | (.register .., .given h) => some h
  | _ => none

/-- The handle that was taken back. -/
def removed? : Operation α × Outcome α → Option Handle
  | (.unregister h, .removed true) => some h
  | _ => none

section
variable (log : List (Operation α × Outcome α))

/-- How many closures were registered. -/
def registrations : Nat := log.countP (·.1.registers)

/-- The handle was given out for this closure, and has not been taken back since. -/
def Standing (h : Handle) (c : Closure α) : Prop :=
  ∃ before f scope after, log = before ++ (.register f scope, .given h) :: after ∧
    c = ⟨some f, scope⟩ ∧ ∀ answer, (.unregister h, answer) ∉ after

/-- The handle was given out, and has been taken back since. -/
def Stale (h : Handle) : Prop :=
  ∃ before f scope after answer, log = before ++ (.register f scope, .given h) :: after ∧
    (.unregister h, answer) ∈ after

end

section
variable {log : List (Operation α × Outcome α)} {h : Handle} {c : Closure α}

theorem mem_given : h ∈ log.filterMap given? ↔ ∃ f scope, (.register f scope, .given h) ∈ log := by
  rw [List.mem_filterMap]
  constructor
  · rintro ⟨⟨o, answer⟩, he, hgiven⟩
    cases o <;> cases answer <;> simp only [given?, Option.some.injEq, reduceCtorEq] at hgiven
    subst hgiven
    exact ⟨_, _, he⟩
  · rintro ⟨f, scope, he⟩
    exact ⟨_, he, rfl⟩

theorem Standing.mem_given (hs : Standing log h c) : h ∈ log.filterMap given? := by
  obtain ⟨before, f, scope, after, rfl, -, -⟩ := hs
  exact ClosureRegistry.mem_given.mpr
    ⟨f, scope, List.mem_append_right _ List.mem_cons_self⟩

theorem Stale.mem_given (hs : Stale log h) : h ∈ log.filterMap given? := by
  obtain ⟨before, f, scope, after, answer, rfl, -⟩ := hs
  exact ClosureRegistry.mem_given.mpr
    ⟨f, scope, List.mem_append_right _ List.mem_cons_self⟩

/-- What has been given out stands or is stale. -/
theorem standing_or_stale (hg : h ∈ log.filterMap given?) :
    (∃ c, Standing log h c) ∨ Stale log h := by
  obtain ⟨f, scope, he⟩ := mem_given.mp hg
  obtain ⟨before, after, hsplit⟩ := List.append_of_mem he
  by_cases hafter : ∃ answer, (.unregister h, answer) ∈ after
  · obtain ⟨answer, ha⟩ := hafter
    exact .inr ⟨before, f, scope, after, answer, hsplit, ha⟩
  · exact .inl ⟨_, before, f, scope, after, hsplit, rfl, fun answer ha => hafter ⟨answer, ha⟩⟩

/-- A handle stands after one more operation if it stood before, unless it is the one taken back, or
if it is the one given out. -/
theorem standing_append (e : Operation α × Outcome α) :
    Standing (log ++ [e]) h c ↔
      (Standing log h c ∧ ∀ answer, e ≠ (.unregister h, answer)) ∨
        ∃ f scope, e = (.register f scope, .given h) ∧ c = ⟨some f, scope⟩ := by
  constructor
  · rintro ⟨before, f, scope, after, hsplit, hc, hafter⟩
    rcases append_singleton_eq_iff.mp hsplit with ⟨-, he, -⟩ | ⟨after', hlog, rfl⟩
    · exact .inr ⟨f, scope, he, hc⟩
    · simp only [List.mem_append, List.mem_singleton, not_or] at hafter
      exact .inl ⟨⟨before, f, scope, after', hlog, hc, fun a => (hafter a).1⟩,
        fun a h => (hafter a).2 h.symm⟩
  · rintro (⟨⟨before, f, scope, after, hlog, hc, hafter⟩, he⟩ | ⟨f, scope, rfl, hc⟩)
    · refine ⟨before, f, scope, after ++ [e], append_singleton_eq_iff.mpr (.inr ⟨after, hlog, rfl⟩),
        hc, fun a ha => ?_⟩
      rcases List.mem_append.mp ha with ha | ha
      · exact hafter a ha
      · exact he a (List.mem_singleton.mp ha).symm
    · exact ⟨log, f, scope, [], rfl, hc, fun _ => List.not_mem_nil⟩

theorem stale_append (e : Operation α × Outcome α) :
    Stale (log ++ [e]) h ↔
      Stale log h ∨ (h ∈ log.filterMap given? ∧ ∃ answer, e = (.unregister h, answer)) := by
  constructor
  · rintro ⟨before, f, scope, after, answer, hsplit, ha⟩
    rcases append_singleton_eq_iff.mp hsplit with ⟨-, -, rfl⟩ | ⟨after', hlog, rfl⟩
    · cases ha
    · rcases List.mem_append.mp ha with ha | ha
      · exact .inl ⟨before, f, scope, after', answer, hlog, ha⟩
      · refine .inr ⟨mem_given.mpr ⟨f, scope, ?_⟩, answer, (List.mem_singleton.mp ha).symm⟩
        rw [hlog]
        exact List.mem_append_right _ List.mem_cons_self
  · rintro (⟨before, f, scope, after, answer, hlog, ha⟩ | ⟨hg, answer, rfl⟩)
    · exact ⟨before, f, scope, after ++ [e], answer,
        append_singleton_eq_iff.mpr (.inr ⟨after, hlog, rfl⟩), List.mem_append_left _ ha⟩
    · obtain ⟨f, scope, he⟩ := mem_given.mp hg
      obtain ⟨before, after, hlog⟩ := List.append_of_mem he
      exact ⟨before, f, scope, after ++ [(.unregister h, answer)], answer,
        append_singleton_eq_iff.mpr (.inr ⟨after, hlog, rfl⟩),
        List.mem_append_right _ List.mem_cons_self⟩

/-! ## What the table has to do with the answers -/

/-- The counter and the table say what the answers so far tell. -/
structure Tells (log : List (Operation α × Outcome α)) (r : ClosureRegistry α) : Prop where
  last : r.last.toNat = registrations log
  given : (log.filterMap given?).map UInt64.toNat = List.range' 1 (registrations log)
  live : ∀ h c, r.live.lookup h = some c ↔ Standing log h c
  distinct : (r.live.map Prod.fst).Nodup
  apart : ∀ h c, Standing log h c → ¬ Stale log h
  once : (log.filterMap removed?).Nodup
  removed : ∀ h, h ∈ log.filterMap removed? ↔ Stale log h

namespace Tells

variable {r : ClosureRegistry α}

theorem empty : Tells ([] : List (Operation α × Outcome α)) {} where
  last := rfl
  given := rfl
  live h c := by simp [Standing]
  distinct := List.nodup_nil
  apart h c := by simp [Standing]
  once := List.nodup_nil
  removed h := by simp [Stale]

theorem le_of_mem (hr : Tells log r) (hg : h ∈ log.filterMap given?) :
    1 ≤ h.toNat ∧ h.toNat ≤ registrations log := by
  have hmem := List.mem_map_of_mem (f := UInt64.toNat) hg
  rw [hr.given, List.mem_range'_1] at hmem
  omega

theorem contains_iff (hr : Tells log r) : r.contains h = true ↔ ∃ c, Standing log h c := by
  unfold contains
  rw [Option.isSome_iff_exists]
  exact exists_congr fun c => hr.live h c

/-- An operation that leaves the registry as it is, and no trace of a handle. -/
theorem append_quiet (hr : Tells log r) {e : Operation α × Outcome α}
    (hregisters : e.1.registers = false) (hunregister : ∀ h answer, e ≠ (.unregister h, answer)) :
    Tells (log ++ [e]) r := by
  have hgiven : given? e = none := by
    obtain ⟨o, answer⟩ := e
    cases o <;> first | rfl | cases hregisters
  have hremoved : removed? e = none := by
    obtain ⟨o, answer⟩ := e
    cases o <;> first | rfl | exact absurd rfl (hunregister _ _)
  have hcount : registrations (log ++ [e]) = registrations log := by
    simp [registrations, hregisters]
  have hnew : ∀ {h : Handle} {c : Closure α},
      ¬ ∃ f scope, e = (.register f scope, .given h) ∧ c = ⟨some f, scope⟩ := by
    rintro h c ⟨f, scope, rfl, -⟩
    cases hregisters
  have hstanding : ∀ {h c}, Standing (log ++ [e]) h c ↔ Standing log h c := by
    intro h c
    rw [standing_append, or_iff_left hnew, and_iff_left (hunregister h)]
  have hstale : ∀ {h}, Stale (log ++ [e]) h ↔ Stale log h := by
    intro h
    rw [stale_append]
    exact or_iff_left fun ⟨_, answer, he⟩ => hunregister h answer he
  constructor
  case last => rw [hcount, hr.last]
  case given => rw [filterMap_append_of_none hgiven, hcount, hr.given]
  case live => exact fun h c => (hr.live h c).trans hstanding.symm
  case distinct => exact hr.distinct
  case apart => exact fun h c hs hst => hr.apart h c (hstanding.mp hs) (hstale.mp hst)
  case once =>
    rw [filterMap_append_of_none hremoved]
    exact hr.once
  case removed =>
    intro h
    rw [filterMap_append_of_none hremoved, hstale]
    exact hr.removed h

theorem register (hr : Tells log r) (f : α) (scope : CallbackScope)
    (hbound : registrations log + 1 < 2 ^ 64) :
    Tells (log ++ [(.register f scope, .given (r.last + 1))]) (r.register f scope).2 := by
  have hlast : (r.last + 1).toNat = registrations log + 1 := by
    rw [UInt64.toNat_add, hr.last]
    exact Nat.mod_eq_of_lt hbound
  have hcount : registrations (log ++ [(.register f scope, .given (r.last + 1))]) =
      registrations log + 1 := by
    simp [registrations, Operation.registers]
  have hfresh : r.last + 1 ∉ log.filterMap given? := by
    intro hmem
    have := (hr.le_of_mem hmem).2
    omega
  have hstanding : ∀ {h c},
      Standing (log ++ [(.register f scope, .given (r.last + 1))]) h c ↔
        Standing log h c ∨ (h = r.last + 1 ∧ c = ⟨some f, scope⟩) := by
    intro h c
    rw [standing_append]
    constructor
    · rintro (⟨hs, -⟩ | ⟨f', scope', he, hc⟩)
      · exact .inl hs
      · cases he
        exact .inr ⟨rfl, hc⟩
    · rintro (hs | ⟨rfl, hc⟩)
      · exact .inl ⟨hs, fun _ he => by cases he⟩
      · exact .inr ⟨f, scope, rfl, hc⟩
  have hstale : ∀ {h}, Stale (log ++ [(.register f scope, .given (r.last + 1))]) h ↔
      Stale log h := by
    intro h
    rw [stale_append, or_iff_left (fun ⟨_, _, he⟩ => by cases he)]
  constructor
  case last => exact hlast.trans hcount.symm
  case given =>
    rw [filterMap_append_of_some (f := given?) rfl, List.map_append, hr.given, hcount,
      List.range'_concat]
    simp [hlast, Nat.add_comm]
  case live =>
    intro h c
    refine Iff.trans ?_ hstanding.symm
    rw [lookup_register]
    split
    case isTrue hh =>
      rw [hh, or_iff_right fun hs => hfresh hs.mem_given, Option.some.injEq, eq_comm]
      simp
    case isFalse hh =>
      rw [or_iff_left fun h' => hh h'.1]
      exact hr.live h c
  case distinct => exact nodup_register hr.distinct f scope
  case apart =>
    intro h c hs hst
    rcases hstanding.mp hs with hs | ⟨rfl, -⟩
    · exact hr.apart h c hs (hstale.mp hst)
    · exact hfresh (hstale.mp hst).mem_given
  case once =>
    rw [filterMap_append_of_none rfl]
    exact hr.once
  case removed =>
    intro h
    rw [filterMap_append_of_none rfl]
    exact (hr.removed h).trans hstale.symm

theorem unregister (hr : Tells log r) (k : Handle) :
    Tells (log ++ [(.unregister k, .removed (r.unregister k).1)]) (r.unregister k).2 := by
  have hcount : registrations (log ++ [(.unregister k, .removed (r.unregister k).1)]) =
      registrations log := by
    simp [registrations, Operation.registers]
  have hstanding : ∀ {h c},
      Standing (log ++ [(.unregister k, .removed (r.unregister k).1)]) h c ↔
        Standing log h c ∧ h ≠ k := by
    intro h c
    rw [standing_append, or_iff_left (fun ⟨_, _, he, _⟩ => by cases he)]
    refine and_congr_right fun _ => ⟨fun he hh => he _ (by rw [hh]), fun hh a he => ?_⟩
    cases he
    exact hh rfl
  have hstale : ∀ {h}, Stale (log ++ [(.unregister k, .removed (r.unregister k).1)]) h ↔
      Stale log h ∨ (h ∈ log.filterMap given? ∧ h = k) := by
    intro h
    rw [stale_append]
    refine or_congr_right (and_congr_right fun _ => ⟨?_, ?_⟩)
    · rintro ⟨a, he⟩
      cases he
      rfl
    · rintro rfl
      exact ⟨_, rfl⟩
  constructor
  case last => exact hr.last.trans hcount.symm
  case given => rw [filterMap_append_of_none rfl, hcount, hr.given]
  case live =>
    intro h c
    refine Iff.trans ?_ hstanding.symm
    rw [lookup_unregister]
    split
    case isTrue hh => simp [hh]
    case isFalse hh => simp [hh, hr.live h c]
  case distinct => exact nodup_unregister hr.distinct k
  case apart =>
    intro h c hs hst
    obtain ⟨hs, hne⟩ := hstanding.mp hs
    rcases hstale.mp hst with hst | ⟨-, rfl⟩
    · exact hr.apart h c hs hst
    · exact hne rfl
  case once =>
    cases hfound : (r.unregister k).1 with
    | false =>
        rw [filterMap_append_of_none rfl]
        exact hr.once
    | true =>
        obtain ⟨c, hs⟩ := hr.contains_iff.mp hfound
        have hnew : k ∉ log.filterMap removed? := fun hk => hr.apart k c hs ((hr.removed k).mp hk)
        rw [filterMap_append_of_some (f := removed?) rfl, ← List.concat_eq_append]
        exact hr.once.concat hnew
  case removed =>
    intro h
    refine Iff.trans ?_ hstale.symm
    cases hfound : (r.unregister k).1 with
    | false =>
        rw [filterMap_append_of_none rfl, hr.removed]
        refine (or_iff_left_of_imp ?_).symm
        rintro ⟨hg, rfl⟩
        refine (standing_or_stale hg).resolve_left fun hs => ?_
        have hcontains : r.contains h = true := hr.contains_iff.mpr hs
        exact Bool.false_ne_true (hfound.symm.trans hcontains)
    | true =>
        obtain ⟨c, hs⟩ := hr.contains_iff.mp hfound
        rw [filterMap_append_of_some (f := removed?) rfl, List.mem_append, List.mem_singleton,
          hr.removed]
        exact or_congr_right ⟨fun hh => ⟨hh ▸ hs.mem_given, hh⟩, And.right⟩

theorem perform (hr : Tells log r) (o : Operation α)
    (hbound : o.registers = true → registrations log + 1 < 2 ^ 64) :
    Tells (log ++ [(o, (r.perform o).1)]) (r.perform o).2 := by
  cases o with
  | register f scope => exact hr.register f scope (hbound rfl)
  | unregister k => exact hr.unregister k
  | get h | contains h | size => exact hr.append_quiet rfl fun _ _ he => by cases he

end Tells

end

/-! ## Runs -/

theorem registrations_append (log log' : List (Operation α × Outcome α)) :
    registrations (log ++ log') = registrations log + registrations log' :=
  List.countP_append

theorem performAll_cons (r : ClosureRegistry α) (o : Operation α) (rest : List (Operation α)) :
    r.performAll (o :: rest) = ((o, (r.perform o).1) :: ((r.perform o).2.performAll rest).1,
      ((r.perform o).2.performAll rest).2) := rfl

theorem performAll_append (operations operations' : List (Operation α)) :
    ∀ r : ClosureRegistry α, r.performAll (operations ++ operations') =
      ((r.performAll operations).1 ++ ((r.performAll operations).2.performAll operations').1,
        ((r.performAll operations).2.performAll operations').2) := by
  induction operations with
  | nil => intro r; rfl
  | cons o rest ih =>
      intro r
      rw [List.cons_append, performAll_cons, ih, performAll_cons]
      rfl

theorem map_fst_performAll (operations : List (Operation α)) : ∀ r : ClosureRegistry α,
    (r.performAll operations).1.map Prod.fst = operations := by
  induction operations with
  | nil => intro r; rfl
  | cons o rest ih =>
      intro r
      exact congrArg (o :: ·) (ih _)

theorem registrations_performAll (operations : List (Operation α)) (r : ClosureRegistry α) :
    registrations (r.performAll operations).1 = operations.countP (·.registers) := by
  conv_rhs => rw [← map_fst_performAll operations r, List.countP_map]
  rfl

theorem Tells.performAll (operations : List (Operation α)) :
    ∀ {log : List (Operation α × Outcome α)} {r : ClosureRegistry α}, Tells log r →
      registrations log + operations.countP (·.registers) < 2 ^ 64 →
        Tells (log ++ (r.performAll operations).1) (r.performAll operations).2 := by
  induction operations with
  | nil =>
      intro log r hr _
      rwa [ClosureRegistry.performAll, List.append_nil]
  | cons o rest ih =>
      intro log r hr hbound
      rw [List.countP_cons] at hbound
      have hone := hr.perform o fun ho => by
        rw [ho, if_pos rfl] at hbound
        omega
      have hcount : registrations [(o, (r.perform o).1)] = if o.registers then 1 else 0 :=
        List.countP_singleton
      have hrest := ih hone (by rw [registrations_append, hcount]; omega)
      rwa [List.append_assoc] at hrest

/-! ## Runs on a new registry -/

section
variable (earlier : List (Operation α))

/-- The operations on a new registry, each with its answer. -/
def log : List (Operation α × Outcome α) := (performAll {} earlier).1

/-- The registry after the operations. -/
def after : ClosureRegistry α := (performAll {} earlier).2

/-- How a registry stands after some operations, and what it answers next. -/
structure Faithful : Prop where
  asked : (log earlier).map Prod.fst = earlier
  next : ∀ o, log (earlier ++ [o]) = log earlier ++ [(o, ((after earlier).perform o).1)] ∧
    after (earlier ++ [o]) = ((after earlier).perform o).2
  /-- Handles count up from one. -/
  handles : ((log earlier).filterMap given?).map UInt64.toNat =
    List.range' 1 (earlier.countP (·.registers))
  distinct : ((log earlier).filterMap given?).Nodup
  get_of_standing : ∀ h c, Standing (log earlier) h c → (after earlier).get h = c
  get_of_not_standing : ∀ h, (∀ c, ¬ Standing (log earlier) h c) → (after earlier).get h = {}
  get_of_stale : ∀ h, Stale (log earlier) h → (after earlier).get h = {}
  get_zero : (after earlier).get 0 = {}
  contains : ∀ h, (after earlier).contains h = !((after earlier).get h).isEmpty
  unregister : ∀ h, ((after earlier).unregister h).1 = true ↔ ∃ c, Standing (log earlier) h c
  /-- A handle is found once when it is taken back, however often that is tried. -/
  removedOnce : ((log earlier).filterMap removed?).Nodup
  removed : ∀ h, h ∈ (log earlier).filterMap removed? ↔ Stale (log earlier) h
  size : (after earlier).size = {h | ∃ c, Standing (log earlier) h c}.ncard

theorem get_eq (r : ClosureRegistry α) (h : Handle) : r.get h = (r.live.lookup h).getD {} := rfl

theorem faithful_after (hlength : earlier.length < 2 ^ 64) : Faithful earlier := by
  have hbound : registrations ([] : List (Operation α × Outcome α)) +
      earlier.countP (·.registers) < 2 ^ 64 := by
    have := List.countP_le_length (p := fun o : Operation α => o.registers) (l := earlier)
    have hnil : registrations ([] : List (Operation α × Outcome α)) = 0 := rfl
    omega
  have hr : Tells (log earlier) (after earlier) := Tells.empty.performAll earlier hbound
  have hget : ∀ h, (∀ c, ¬ Standing (log earlier) h c) → (after earlier).get h = {} := by
    intro h hs
    have hnone : (after earlier).live.lookup h = none :=
      Option.eq_none_iff_forall_ne_some.mpr fun c hc => hs c ((hr.live h c).mp hc)
    rw [get_eq, hnone, Option.getD_none]
  have hstanding : ∀ h c, Standing (log earlier) h c → (after earlier).get h = c := by
    intro h c hs
    rw [get_eq, (hr.live h c).mpr hs, Option.getD_some]
  constructor
  case asked => exact map_fst_performAll earlier {}
  case next =>
    intro o
    have happend := performAll_append earlier [o] {}
    exact ⟨congrArg Prod.fst happend, congrArg Prod.snd happend⟩
  case handles => rw [hr.given, log, registrations_performAll]
  case distinct =>
    apply List.Nodup.of_map UInt64.toNat
    rw [hr.given]
    exact List.nodup_range'
  case get_of_standing => exact hstanding
  case get_of_not_standing => exact hget
  case get_of_stale => exact fun h hst => hget h fun c hs => hr.apart h c hs hst
  case get_zero =>
    refine hget 0 fun c hs => ?_
    have := (hr.le_of_mem hs.mem_given).1
    simp at this
  case contains =>
    intro h
    by_cases hs : ∃ c, Standing (log earlier) h c
    · obtain ⟨c, hs⟩ := hs
      rw [hr.contains_iff.mpr ⟨c, hs⟩, hstanding h c hs]
      obtain ⟨-, f, scope, -, -, rfl, -⟩ := hs
      rfl
    · rw [Bool.eq_false_iff.mpr (hr.contains_iff.not.mpr hs), hget h (not_exists.mp hs)]
      rfl
  case unregister => exact fun h => hr.contains_iff
  case removedOnce => exact hr.once
  case removed => exact hr.removed
  case size =>
    have hkeys : ∀ h, h ∈ (after earlier).live.map Prod.fst ↔ ∃ c, Standing (log earlier) h c := by
      intro h
      rw [← hr.contains_iff, ClosureRegistry.contains, List.lookup_isSome_iff, List.mem_map]
      exact exists_congr fun p => and_congr_right fun _ => by rw [beq_iff_eq, eq_comm]
    have hset : {h | ∃ c, Standing (log earlier) h c} =
        ↑((after earlier).live.map Prod.fst).toFinset := by
      ext h
      rw [List.coe_toFinset]
      exact (hkeys h).symm
    rw [hset, Set.ncard_coe_finset, List.toFinset_card_of_nodup hr.distinct, List.length_map]
    rfl

end

/-- A handle is taken back twice and looked up again, and the next closure is given another one. -/
def reregistered : List (Operation Nat) :=
  [.register 5 .call, .unregister 1, .unregister 1, .register 6 .async, .get 1, .contains 2, .size]

theorem faithful_after_reregistered : reregistered.length < 2 ^ 64 ∧ Faithful reregistered :=
  ⟨by decide, faithful_after reregistered (by decide)⟩

end ClosureRegistry

end Introspect
