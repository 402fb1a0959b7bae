import Introspect.Proofs.Variables
import Mathlib.Data.List.Nodup

/-!
# Pairing callbacks

A callback names the argument that carries its data, and perhaps one that releases it. Callbacks are
looked at from left to right, and each takes the argument it names unless that is taken already. So
an argument carries the data of one callback at most and a callback is paired with one argument at
most, and each pair has a handle of its own.

Nothing is asked of the direction of a callback, nor of whether it is to release another one.
-/

namespace Introspect.Binding

open Naming (Locals)

namespace Analysis

/-- The argument that is to carry the data of the callback at `i`, unless it carries another's. -/
def dataArg? (f : Function) (an : Analysis) (a : Argument) (i : Nat) : Option Nat :=
  if takesClosure an.env a then
    (a.closure.filter fun j => j ≠ i && (f.args[j]?).any isUserData).filter fun j =>
      (an.dataOf.lookup j).isNone
  else none

/-- What is known once the callback at `i` is paired with the argument at `j`. -/
def paired (an : Analysis) (a : Argument) (i j : Nat) (handle : String) : Analysis :=
  { an with
    dataOf := (j, i) :: an.dataOf
    releaseOf :=
      ((a.destroy.filter fun d => d ≠ i && d ≠ j).map fun d => (d, i)).toList ++ an.releaseOf
    handles := (i, handle) :: an.handles }

theorem pair_eq_match (f : Function) (st : Analysis × Locals) (a : Argument) (i : Nat) :
    pair f st a i =
      match dataArg? f st.1 a i with
      | none => st
      | some j => (st.1.paired a i j (st.2.alloc "handle").1, (st.2.alloc "handle").2) := by
  unfold pair dataArg?
  dsimp only
  cases takesClosure st.1.env a with
  | false => rfl
  | true =>
      simp only [Bool.not_true, Bool.false_eq_true, if_false, if_true]
      cases a.closure.filter fun j => decide (j ≠ i) && (f.args[j]?).any isUserData with
      | none => rfl
      | some j =>
          simp only [Option.filter_some]
          cases st.1.dataOf.lookup j <;> rfl

/-- Pairing a callback only adds to what is known of callbacks. -/
theorem pair_eq (f : Function) (st : Analysis × Locals) (a : Argument) (i : Nat) :
    ∃ d r h, (pair f st a i).1 =
      { st.1 with dataOf := d, releaseOf := r, handles := h } := by
  rw [pair_eq_match]
  cases dataArg? f st.1 a i with
  | none => exact ⟨_, _, _, rfl⟩
  | some j => exact ⟨_, _, _, rfl⟩

theorem params_pair (f : Function) (st : Analysis × Locals) (a : Argument) (i : Nat) :
    (pair f st a i).2.params = st.2.params := by
  rw [pair_eq_match]
  cases dataArg? f st.1 a i <;> rfl

/-! ## Pairs -/

/-- The closure `a` at `i` names the pointer `b` at `j` as the one that carries its data. -/
structure Names (e : Env) (f : Function) (i j : Nat) (a b : Argument) : Prop where
  callback : f.args[i]? = some a
  closure : takesClosure e a = true
  names : a.closure = some j
  other : j ≠ i
  data : f.args[j]? = some b
  pointer : isUserData b = true

theorem names_of_dataArg {f : Function} {an : Analysis} {a : Argument} {i j : Nat}
    (ha : f.args[i]? = some a) (h : dataArg? f an a i = some j) :
    (∃ b, Names an.env f i j a b) ∧ an.dataOf.lookup j = none := by
  unfold dataArg? at h
  split at h
  · next hclosure =>
      obtain ⟨hj, hfree⟩ := Option.filter_eq_some_iff.mp h
      obtain ⟨hnames, hdata⟩ := Option.filter_eq_some_iff.mp hj
      rw [Bool.and_eq_true, decide_eq_true_eq, Option.any_eq_true] at hdata
      obtain ⟨hother, b, hb, hpointer⟩ := hdata
      exact ⟨⟨b, ha, hclosure, hnames, hother, hb, hpointer⟩, Option.isNone_iff_eq_none.mp hfree⟩
  · cases h

/-- What is known of pairs after the first `n` arguments have been looked at. -/
structure Paired (e : Env) (f : Function) (n : Nat) (st : Analysis × Locals) : Prop where
  env : st.1.env = e
  pair : ∀ j i, (j, i) ∈ st.1.dataOf → i < n ∧ ∃ a b, Names e f i j a b
  /-- There is one handle for each pair. -/
  handles : st.1.handles.map Prod.fst = st.1.dataOf.map Prod.snd
  data : (st.1.dataOf.map Prod.fst).Nodup
  callbacks : (st.1.dataOf.map Prod.snd).Nodup
  /-- The number of every handle is below the next one. -/
  numbers : ∀ h ∈ st.1.handles.map Prod.snd,
    ∃ k < st.2.nextNumber "handle", h = Locals.spelled "handle" k
  distinct : (st.1.handles.map Prod.snd).Nodup

/-- Looking at one more argument keeps to that. -/
theorem Paired.pair_succ {e : Env} {f : Function} {n : Nat} {st : Analysis × Locals} {a : Argument}
    (h : Paired e f n st) (ha : f.args[n]? = some a) :
    Paired e f (n + 1) (Analysis.pair f st a n) := by
  rw [pair_eq_match]
  cases hj : dataArg? f st.1 a n with
  | none =>
      refine { h with pair := fun j i hmem => ?_ }
      obtain ⟨hi, hnames⟩ := h.pair j i hmem
      exact ⟨by omega, hnames⟩
  | some j =>
      obtain ⟨⟨b, hnames⟩, hfree⟩ := names_of_dataArg ha hj
      rw [h.env] at hnames
      -- The callback is new among the pairs since only those before it are paired so far.
      have hnew : n ∉ st.1.dataOf.map Prod.snd := by
        intro hmem
        obtain ⟨⟨j', i⟩, hp, rfl⟩ := List.mem_map.mp hmem
        exact absurd (h.pair j' i hp).1 (Nat.lt_irrefl i)
      have hdata : j ∉ st.1.dataOf.map Prod.fst := by
        intro hmem
        obtain ⟨p, hp, rfl⟩ := List.mem_map.mp hmem
        have hne := List.lookup_eq_none_iff.mp hfree p hp
        simp at hne
      have hhandle : (st.2.alloc "handle").1 ∉ st.1.handles.map Prod.snd := by
        intro hmem
        obtain ⟨k, hk, heq⟩ := h.numbers _ hmem
        rw [Locals.alloc_fst] at heq
        exact absurd (Locals.spelled_inj heq) (Nat.ne_of_gt hk)
      constructor
      case env => exact h.env
      case pair =>
        intro j' i hmem
        rcases List.mem_cons.mp hmem with heq | hmem
        · cases heq
          exact ⟨Nat.lt_succ_self n, a, b, hnames⟩
        · obtain ⟨hi, hold⟩ := h.pair j' i hmem
          exact ⟨by omega, hold⟩
      case handles => exact congrArg (n :: ·) h.handles
      case data => exact List.nodup_cons.mpr ⟨hdata, h.data⟩
      case callbacks => exact List.nodup_cons.mpr ⟨hnew, h.callbacks⟩
      case numbers =>
        intro handle hmem
        rw [Locals.nextNumber_alloc]
        rcases List.mem_cons.mp hmem with rfl | hmem
        · exact ⟨_, Nat.lt_succ_self _, Locals.alloc_fst _ _⟩
        · obtain ⟨k, hk, heq⟩ := h.numbers handle hmem
          exact ⟨k, by omega, heq⟩
      case distinct => exact List.nodup_cons.mpr ⟨hhandle, h.distinct⟩

theorem Paired.foldl_pair {e : Env} {f : Function} {rest : List Argument} :
    ∀ {n : Nat} {st : Analysis × Locals}, Paired e f n st →
      (∀ m a, rest[m]? = some a → f.args[n + m]? = some a) →
        Paired e f (n + rest.length)
          ((rest.zipIdx n).foldl (fun st (a, i) => Analysis.pair f st a i) st) := by
  induction rest with
  | nil => intro n st h _; exact h
  | cons a rest ih =>
      intro n st h hargs
      rw [List.zipIdx_cons, List.foldl_cons, List.length_cons, ← Nat.add_assoc, Nat.add_right_comm]
      refine ih (h.pair_succ (hargs 0 a rfl)) fun m b hb => ?_
      rw [Nat.add_right_comm]
      exact hargs (m + 1) b hb

theorem paired_of (e : Env) (f : Function) (site : Site) :
    Paired e f f.args.length (of e f site) := by
  have hstart : Paired e f 0 (start e f site) :=
    { env := rfl
      pair := fun _ _ hmem => absurd hmem (List.not_mem_nil)
      handles := rfl
      data := List.nodup_nil
      callbacks := List.nodup_nil
      numbers := fun _ hmem => absurd hmem (List.not_mem_nil)
      distinct := List.nodup_nil }
  have h : Paired e f (0 + f.args.length) (of e f site) :=
    hstart.foldl_pair fun m a ha => by rwa [Nat.zero_add]
  rwa [Nat.zero_add] at h

end Analysis

end Introspect.Binding
