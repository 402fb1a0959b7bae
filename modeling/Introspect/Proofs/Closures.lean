import Introspect.Binding.Generate
import Introspect.Proofs.Roles

/-!
# Handles of closures

A closure is registered under a handle before the call, and its handle is passed where the callee
expects the closure's data. The slot of the handle comes from pairing, which looks at the callbacks
of a function alone. The statement that binds the handle comes with the closure's own part, which it
has only if it is given as a callback: it goes in, it is not the instance, and it is not taken for
the release of another closure.

So every handle that is registered is passed once, where its callback says, with the trampoline of
the callback's type. But a handle can be passed that was never registered, and which ones these are
can be told from the arguments.
-/

namespace Introspect.Binding

open Naming (Locals)

/-! ## Pairs of a call -/

namespace Analysis

section
variable {e : Env} {f : Function} {site : Site} {i j : Nat}

/-- Every pair has its handle. -/
theorem exists_handle (h : (of e f site).1.dataOf.lookup j = some i) :
    ∃ handle, (of e f site).1.handles.lookup i = some handle := by
  refine exists_lookup ?_
  rw [(paired_of e f site).handles]
  exact List.mem_map_of_mem (mem_of_lookup h)

/-- Every handle belongs to a pair. -/
theorem exists_data {handle : String} (h : (of e f site).1.handles.lookup i = some handle) :
    ∃ j, (of e f site).1.dataOf.lookup j = some i := by
  have hmem : i ∈ (of e f site).1.dataOf.map Prod.snd := by
    rw [← (paired_of e f site).handles]
    exact List.mem_map_of_mem (mem_of_lookup h)
  obtain ⟨⟨j, i⟩, hp, rfl⟩ := List.mem_map.mp hmem
  obtain ⟨k, hk⟩ := exists_lookup (List.mem_map_of_mem hp)
  have heq := List.inj_on_of_nodup_map (paired_of e f site).data (mem_of_lookup hk) hp rfl
  cases heq
  exact ⟨j, hk⟩

/-- Two callbacks have two handles. -/
theorem handle_inj {k : Nat} {handle : String}
    (hi : (of e f site).1.handles.lookup i = some handle)
    (hk : (of e f site).1.handles.lookup k = some handle) : i = k :=
  congrArg Prod.fst
    (List.inj_on_of_nodup_map (paired_of e f site).distinct (mem_of_lookup hi) (mem_of_lookup hk)
      rfl)

/-- Two arguments carry the data of two callbacks. -/
theorem data_inj {k : Nat} (hj : (of e f site).1.dataOf.lookup j = some i)
    (hk : (of e f site).1.dataOf.lookup k = some i) : j = k :=
  congrArg Prod.fst
    (List.inj_on_of_nodup_map (paired_of e f site).callbacks (mem_of_lookup hj) (mem_of_lookup hk)
      rfl)

/-- What carries the data of a callback is nothing else. -/
theorem role_of_dataOf {handle : String} (hdata : (of e f site).1.dataOf.lookup j = some i)
    (hhandle : (of e f site).1.handles.lookup i = some handle) {b : Argument}
    (hb : f.args[j]? = some b) : (of e f site).1.role j b = .userData handle := by
  have hpointer := isUserData_of_dataOf hb hdata
  rw [isUserData, Bool.and_eq_true, decide_eq_true_eq] at hpointer
  have hself : ¬ (decide (j = 0) && (of e f site).1.selfFirst) = true := by
    intro h
    rw [Bool.and_eq_true, decide_eq_true_eq, of_selfFirst] at h
    obtain ⟨c, hself⟩ := isSelfArgument_of_selfFirst h.2 (h.1 ▸ hb)
    simp only [isSelfArgument, Bool.and_eq_true, decide_eq_true_eq, hpointer.1] at hself
    cases hself.1.2
  have hhidden : (of e f site).1.hidden.lookup j = none := by
    cases h : (of e f site).1.hidden.lookup j with
    | none => rfl
    | some l =>
        have hnumber := isLength_of_hidden hb h
        rw [isLength, hpointer.2] at hnumber
        cases hnumber
  unfold role
  rw [if_neg hself, hhidden, hdata]
  dsimp only
  rw [hhandle, Option.getD_some]

/-- A handle that is passed belongs to a pair. -/
theorem dataOf_of_role {handle : String} {b : Argument}
    (h : (of e f site).1.role j b = .userData handle) :
    ∃ i, (of e f site).1.dataOf.lookup j = some i ∧
      (of e f site).1.handles.lookup i = some handle := by
  unfold role at h
  split at h
  · cases h
  · split at h
    · cases h
    · split at h
      · next i hdata =>
          obtain ⟨handle', hhandle⟩ := exists_handle hdata
          rw [hhandle, Option.getD_some] at h
          cases h
          exact ⟨i, hdata, hhandle⟩
      · split at h
        · cases h
        · split at h
          · split at h <;> cases h
          · split at h <;> cases h
          · cases h

/-- A closure has the type of a callback. -/
theorem exists_reference_of_takesClosure {a : Argument} (h : takesClosure e a = true) :
    isCallback e.scope a = true ∧ ∃ r, a.type.reference = some r := by
  unfold takesClosure at h
  split at h
  · next k hk =>
      obtain ⟨r, hr, hk⟩ := Option.bind_eq_some_iff.mp hk
      obtain ⟨_, hguard, -⟩ := Option.bind_eq_some_iff.mp hk
      refine ⟨?_, r, hr⟩
      unfold guard at hguard
      split at hguard
      · next hkind =>
          rw [Bool.and_eq_true, Bool.and_eq_true, decide_eq_true_eq, decide_eq_true_eq] at hkind
          rw [isCallback, Scope.kindOf?, hr, Option.map_some, hkind.1.1, hkind.1.2]
          rfl
      · cases hguard
  · cases h

/-- A value of a named type is neither a length that is filled in nor the data of a closure. -/
theorem lookup_of_interface (e : Env) (site : Site) {a : Argument} (ha : f.args[i]? = some a)
    (htag : a.type.tag = .interface) :
    (of e f site).1.hidden.lookup i = none ∧ (of e f site).1.dataOf.lookup i = none := by
  constructor
  · cases h : (of e f site).1.hidden.lookup i with
    | none => rfl
    | some l =>
        have hnumber := isLength_of_hidden ha h
        rw [isLength, htag, Bool.and_eq_true] at hnumber
        cases hnumber.2
  · cases h : (of e f site).1.dataOf.lookup i with
    | none => rfl
    | some k =>
        have hpointer := isUserData_of_dataOf ha h
        rw [isUserData, htag, Bool.and_eq_true] at hpointer
        cases hpointer.1

/-- A callback is given as one if it goes in, unless it is the instance or is taken for the release
of another one. -/
theorem role_callback_iff {a : Argument} (ha : f.args[i]? = some a)
    (hcallback : isCallback e.scope a = true) :
    (of e f site).1.role i a = .callback ↔ a.direction = .in ∧
      ¬ (i = 0 ∧ (of e f site).1.selfFirst = true) ∧
        (of e f site).1.releaseOf.lookup i = none := by
  have htag : a.type.tag = .interface := by
    rw [isCallback, Bool.and_eq_true, decide_eq_true_eq] at hcallback
    exact hcallback.1
  obtain ⟨hhidden, hdata⟩ := lookup_of_interface e site ha htag
  have hcallback' : isCallback (of e f site).1.env.scope a = true := by rwa [of_env]
  unfold role
  rw [hhidden, hdata, hcallback']
  by_cases hself : i = 0 ∧ (of e f site).1.selfFirst = true
  · rw [if_pos (by rwa [Bool.and_eq_true, decide_eq_true_eq])]
    constructor
    · intro h
      cases h
    · intro h
      exact absurd hself h.2.1
  · rw [if_neg (by rwa [Bool.and_eq_true, decide_eq_true_eq])]
    cases (of e f site).1.releaseOf.lookup i with
    | some k => simp
    | none =>
        cases a.direction with
        | «in» => exact ⟨fun _ => ⟨rfl, hself, rfl⟩, fun _ => rfl⟩
        | out => cases a.usesOutSlot <;> simp
        | inout => simp

end

end Analysis

/-! ## What a part does about handles -/

/-- The variable of a handle that is passed in the slot. -/
def Slot.handle? : Slot → Option String
  | .handle var | .value (.make .handle var) => some var
  | _ => none

/-- The variable of a handle that the statement binds. -/
def Statement.registered? : Statement → Option String
  | .register handle _ _ => some handle
  | _ => none

theorem Statement.registered_of_copies {st : Statement} (h : st.copies = true) :
    st.registered? = none := by
  cases st with
  | copyText | free => rfl
  | _ => cases h

namespace Analysis

/-- The handle that is passed for the argument at `i`. -/
def handed? (an : Analysis) (i : Nat) (a : Argument) : Option String :=
  match an.role i a with
  | .userData handle => some handle
  | _ => none

/-- The handle that the argument at `i` is registered under. -/
def registered? (an : Analysis) (i : Nat) (a : Argument) : Option String :=
  if an.role i a = .callback && takesClosure an.env a then an.handles.lookup i else none

theorem dataOf_of_handed {e : Env} {f : Function} {site : Site} {j : Nat} {b : Argument}
    {handle : String} (h : (of e f site).1.handed? j b = some handle) :
    ∃ i, (of e f site).1.dataOf.lookup j = some i ∧
      (of e f site).1.handles.lookup i = some handle := by
  unfold handed? at h
  split at h
  · next hrole =>
      cases h
      exact dataOf_of_role hrole
  · cases h

theorem given_of_registered {an : Analysis} {i : Nat} {a : Argument} {handle : String}
    (h : an.registered? i a = some handle) :
    an.role i a = .callback ∧ takesClosure an.env a = true ∧ an.handles.lookup i = some handle := by
  unfold registered? at h
  split at h
  · next hgiven =>
      rw [Bool.and_eq_true, decide_eq_true_eq] at hgiven
      exact ⟨hgiven.1, hgiven.2, h⟩
  · cases h

end Analysis

theorem Input.Quiet.handle {v : Input} (h : v.Quiet) : (Slot.value v.slot).handle? = none := by
  cases hslot : v.slot with
  | unmapped what => rfl
  | make cell value =>
      cases cell with
      | handle => exact absurd hslot (h.slot value)
      | _ => rfl

theorem Input.Quiet.registered {v : Input} (h : v.Quiet) :
    ∀ st ∈ v.before ++ v.after, st.registered? = none :=
  fun st hst => Statement.registered_of_copies (h.statements st hst)

namespace Part

variable {an : Analysis} {i : Nat} {a : Argument}

theorem handle_of (an : Analysis) (i : Nat) (a : Argument) (l : Locals) :
    (of an i a l).1.slot.handle? = an.handed? i a := by
  have hpasses := passes_of an i a l
  unfold Analysis.handed?
  cases hrole : an.role i a with
  | input =>
      unfold of
      rw [hrole]
      exact Input.quiet_of.handle
  | callback =>
      rw [hrole] at hpasses
      rcases hpasses with ⟨_, h⟩ | ⟨_, h⟩ <;> rw [h] <;> rfl
  | hidden h =>
      rw [hrole] at hpasses
      cases h <;> rw [hpasses] <;> rfl
  | self | userData handle | release | output | inout =>
      rw [hrole] at hpasses
      rw [hpasses]
      rfl

/-- Without a handle nothing is done for a callback. -/
theorem statements_callback {var : String}
    (h : Analysis.takesClosure an.env a = false ∨ an.handles.lookup i = none) :
    (callback an i a var).statements = [] := by
  rcases callback_of_no_handle h with h | ⟨reason, -, h⟩ <;> rw [h] <;> rfl

theorem before_callback {var : String}
    (h : Analysis.takesClosure an.env a = false ∨ an.handles.lookup i = none) :
    (callback an i a var).before = [] :=
  (List.append_eq_nil_iff.mp (List.append_eq_nil_iff.mp (statements_callback h)).1).1

/-- Nothing is registered around a value that is exchanged. -/
theorem registered_inout (an : Analysis) (i : Nat) (a : Argument) (var : String) (l : Locals) :
    ∀ st ∈ (inout an i a var l).1.statements, st.registered? = none := by
  have hfailed : ∀ st ∈ (unexchanged a var).statements, st.registered? = none :=
    List.forall_mem_singleton.mpr rfl
  rcases inout_cases an i a var l with h | ⟨value, -, h | ⟨-, h⟩⟩ <;> rw [h]
  · exact hfailed
  · exact hfailed
  · intro st hst
    simp only [exchanged, statements, List.mem_append, List.mem_singleton] at hst
    rcases hst with ((hst | rfl) | rfl) | hst
    · exact Input.quiet_of.registered st (List.mem_append_left _ hst)
    · rfl
    · rfl
    · exact Input.quiet_of.registered st (List.mem_append_right _ hst)

theorem registered_of (an : Analysis) (i : Nat) (a : Argument) (l : Locals) :
    (of an i a l).1.before.filterMap Statement.registered? = (an.registered? i a).toList := by
  unfold Analysis.registered? of
  cases hrole : an.role i a with
  | callback =>
      cases hclosure : Analysis.takesClosure an.env a with
      | false => exact congrArg (List.filterMap _) (before_callback (.inl hclosure))
      | true =>
          cases hhandle : an.handles.lookup i with
          | none => exact congrArg (List.filterMap _) (before_callback (.inr hhandle))
          | some handle =>
              dsimp only
              rw [callback_of_handle hclosure hhandle]
              rfl
  | input =>
      refine List.filterMap_eq_nil_iff.mpr fun st hst => ?_
      exact Input.quiet_of.registered st (List.mem_append_left _ hst)
  | inout =>
      refine List.filterMap_eq_nil_iff.mpr fun st hst => ?_
      exact registered_inout an i a _ l st (List.mem_append_left _ (List.mem_append_left _ hst))
  | hidden h => cases h <;> rfl
  | self | userData handle | release | output => rfl

/-- Nothing is registered after the call. -/
theorem registered_after {l : Locals} {st : Statement}
    (h : st ∈ (of an i a l).1.writeBack ++ (of an i a l).1.after) : st.registered? = none := by
  unfold of at h
  cases hrole : an.role i a with
  | callback =>
      rw [hrole] at h
      dsimp only at h
      rcases callback_cases an i a ((l.param? i).getD a.name) with
        ⟨handle, -, -, hcallback⟩ | hcallback | ⟨reason, -, hcallback⟩ <;> rw [hcallback] at h
      · simp only [closure, List.nil_append] at h
        split at h
        · rw [List.mem_singleton.mp h]
          rfl
        · cases h
      · cases h
      · cases h
  | input =>
      rw [hrole] at h
      exact Input.quiet_of.registered st (List.mem_append_right _ h)
  | inout =>
      rw [hrole] at h
      have hst : st ∈ (inout an i a ((l.param? i).getD a.name) l).1.statements := by
        rw [statements, List.append_assoc]
        exact List.mem_append_right _ h
      exact registered_inout an i a _ l st hst
  | hidden hl => rw [hrole] at h; cases hl <;> cases h
  | self | userData handle | release | output => rw [hrole] at h; cases h

end Part

/-! ## Handles of a call -/

theorem Part.flatMap_allFrom {α : Type} {an : Analysis} {args : List Argument} {g : Part → List α}
    {k : Nat → Argument → List α} (h : ∀ i a l, g (of an i a l).1 = k i a) :
    ∀ (i : Nat) (l : Locals),
      (allFrom an i l args).1.flatMap g = (args.zipIdx i).flatMap fun (a, i) => k i a := by
  induction args with
  | nil => intro i l; rfl
  | cons a rest ih =>
      intro i l
      rw [allFrom, List.zipIdx_cons, List.flatMap_cons, List.flatMap_cons, h, ih]

namespace Call

/-- The handles that are passed. -/
def handed (c : Call) : List String := c.slots.filterMap Slot.handle?

/-- The handles that are bound before the call. -/
def registered (c : Call) : List String := c.before.filterMap Statement.registered?

section
variable {e : Env} {f : Function} {site : Site}

/-- What only the roles of arguments decide can be read off the arguments. -/
theorem flatMap_parts {α : Type} {g : Part → List α} {k : Nat → Argument → List α}
    (hself : g { slot := .self } = [])
    (hpointer : ∀ var, g { slot := .value (.make .ptr var), param := some ⟨var, pointerType⟩ } = [])
    (herror : g { slot := .empty } = [])
    (harg : ∀ i a l, g (Part.of (Analysis.of e f site).1 i a l).1 = k i a) :
    (Call.of e f site).parts.flatMap g = f.args.zipIdx.flatMap fun (a, i) => k i a := by
  have hreceivers : (Part.receiver (Analysis.of e f site).1).flatMap g = [] := by
    refine List.flatMap_eq_nil_iff.mpr fun p hp => ?_
    rcases Part.eq_of_mem_receiver hp with rfl | ⟨var, rfl⟩
    · exact hself
    · exact hpointer var
  have herrors : (Part.error (Analysis.of e f site).1).flatMap g = [] := by
    refine List.flatMap_eq_nil_iff.mpr fun p hp => ?_
    rw [Part.eq_of_mem_error hp, herror]
  rw [parts_of, List.flatMap_append, List.flatMap_append, hreceivers, herrors,
    Part.flatMap_allFrom harg, List.nil_append, List.append_nil]

theorem handed_of (e : Env) (f : Function) (site : Site) :
    (Call.of e f site).handed =
      f.args.zipIdx.filterMap fun (a, i) => (Analysis.of e f site).1.handed? i a := by
  rw [handed, slots, List.filterMap_map, List.filterMap_eq_flatMap_toList,
    List.filterMap_eq_flatMap_toList]
  exact flatMap_parts (g := fun p => p.slot.handle?.toList)
    (k := fun i a => ((Analysis.of e f site).1.handed? i a).toList) rfl (fun _ => rfl) rfl
    fun i a l => congrArg Option.toList (Part.handle_of _ i a l)

theorem registered_of (e : Env) (f : Function) (site : Site) :
    (Call.of e f site).registered =
      f.args.zipIdx.filterMap fun (a, i) => (Analysis.of e f site).1.registered? i a := by
  rw [registered, before, List.filterMap_flatMap, List.filterMap_eq_flatMap_toList]
  exact flatMap_parts (g := fun p => p.before.filterMap Statement.registered?)
    (k := fun i a => ((Analysis.of e f site).1.registered? i a).toList) rfl (fun _ => rfl) rfl
    fun i a l => Part.registered_of _ i a l

/-- Handles that differ from argument to argument are all distinct. -/
theorem nodup_filterMap_zipIdx {k : Nat → Argument → Option String} (args : List Argument)
    (h : ∀ i a j b handle, k i a = some handle → k j b = some handle → i = j) :
    (args.zipIdx.filterMap fun (a, i) => k i a).Nodup := by
  have hindices : args.zipIdx.Pairwise fun p q => p.2 ≠ q.2 := by
    rw [← List.pairwise_map (f := Prod.snd) (R := (· ≠ ·)), List.zipIdx_map_snd]
    exact List.nodup_range'
  refine List.Pairwise.filterMap _ ?_ hindices
  rintro ⟨a, i⟩ ⟨b, j⟩ hne handle hi handle' hj rfl
  exact hne (h i a j b handle hi hj)

theorem nodup_handed (e : Env) (f : Function) (site : Site) : (Call.of e f site).handed.Nodup := by
  rw [handed_of]
  refine nodup_filterMap_zipIdx f.args fun i a j b handle hi hj => ?_
  obtain ⟨c, hc, hhandle⟩ := Analysis.dataOf_of_handed hi
  obtain ⟨c', hc', hhandle'⟩ := Analysis.dataOf_of_handed hj
  cases Analysis.handle_inj hhandle hhandle'
  exact Analysis.data_inj hc hc'

theorem nodup_registered (e : Env) (f : Function) (site : Site) :
    (Call.of e f site).registered.Nodup := by
  rw [registered_of]
  refine nodup_filterMap_zipIdx f.args fun i a j b handle hi hj => ?_
  obtain ⟨-, -, hhandle⟩ := Analysis.given_of_registered hi
  obtain ⟨-, -, hhandle'⟩ := Analysis.given_of_registered hj
  exact Analysis.handle_inj hhandle hhandle'

/-- Handles are registered before the call only. -/
theorem registered_of_mem_after {st : Statement} (h : st ∈ (Call.of e f site).after) :
    st.registered? = none := by
  rw [after, List.mem_append, List.mem_flatMap, List.mem_flatMap] at h
  have hpart : ∀ p ∈ (Call.of e f site).parts, ∀ st ∈ p.writeBack ++ p.after,
      st.registered? = none := by
    intro p hp st hst
    rcases mem_parts hp with hp | ⟨i, a, ha, hi⟩ | hp
    · rcases Part.eq_of_mem_receiver hp with rfl | ⟨var, rfl⟩ <;> cases hst
    · obtain ⟨l, -, hl⟩ := exists_part e site ha
      rw [hi, Option.some.injEq] at hl
      rw [hl] at hst
      exact Part.registered_after hst
    · rw [Part.eq_of_mem_error hp] at hst
      cases hst
  rcases h with ⟨p, hp, hst⟩ | ⟨p, hp, hst⟩
  · exact hpart p hp st (List.mem_append_left _ hst)
  · exact hpart p hp st (List.mem_append_right _ hst)

/-- The handle of a pair is passed by the argument that carries the data. -/
theorem slot_of_dataOf {i j : Nat} {handle : String} {b : Argument} (hb : f.args[j]? = some b)
    (hdata : (Analysis.of e f site).1.dataOf.lookup j = some i)
    (hhandle : (Analysis.of e f site).1.handles.lookup i = some handle) :
    (Call.of e f site).slots[(Call.of e f site).position j]? = some (.handle handle) := by
  obtain ⟨l, -, hpart⟩ := exists_part e site hb
  have hpasses := Part.passes_of (Call.of e f site).analysis j b l
  rw [analysis_of, Analysis.role_of_dataOf hdata hhandle hb] at hpasses
  rw [slots, List.getElem?_map, hpart, Option.map_some, analysis_of]
  exact congrArg some hpasses

/-- The closure at `i` is given: it goes in, and it is neither the instance nor taken for the
release of another one. -/
def Gives (c : Call) (i : Nat) (a : Argument) : Prop :=
  a.direction = .in ∧ ¬ (i = 0 ∧ c.analysis.selfFirst = true) ∧ c.analysis.releaseOf.lookup i = none

/-- The closure at `i` has a parameter of its own type, which is registered under the handle, and
the trampoline of that type in its slot. -/
def Registers (c : Call) (i : Nat) (a : Argument) (handle : String) : Prop :=
  ∃ r p var, a.type.reference = some r ∧ c.parts[c.position i]? = some p ∧
    p.param = some ⟨var, r.name⟩ ∧
      p.before = [.register handle var (Part.scopeName a.scope)] ∧ p.slot = .trampoline r.name

/-- How the handles that a call passes and those that it registers go together. -/
structure HandsOver (c : Call) : Prop where
  handed : c.handed.Nodup
  registered : c.registered.Nodup
  /-- Handles are registered before the call only. -/
  early : ∀ st ∈ c.after, st.registered? = none
  /-- A handle that is registered is passed where its closure says. -/
  passed : ∀ handle ∈ c.registered, ∃ i j a, c.analysis.function.args[i]? = some a ∧
    c.Registers i a handle ∧ a.closure = some j ∧ c.slots[c.position j]? = some (.handle handle)
  /-- A handle that is passed is that of a closure, and registered exactly if the closure is
  given. -/
  bound : ∀ handle ∈ c.handed, ∃ i j a, c.analysis.function.args[i]? = some a ∧
    Analysis.takesClosure c.analysis.env a = true ∧ a.closure = some j ∧
      c.slots[c.position j]? = some (.handle handle) ∧ (handle ∈ c.registered ↔ c.Gives i a)

theorem mem_registered {handle : String} :
    handle ∈ (Call.of e f site).registered ↔
      ∃ i a, f.args[i]? = some a ∧ (Analysis.of e f site).1.registered? i a = some handle := by
  rw [registered_of, List.mem_filterMap]
  constructor
  · rintro ⟨⟨a, i⟩, hmem, h⟩
    exact ⟨i, a, List.mem_zipIdx_iff_getElem?.mp hmem, h⟩
  · rintro ⟨i, a, ha, h⟩
    exact ⟨(a, i), List.mem_zipIdx_iff_getElem?.mpr ha, h⟩

/-- A handle that is registered is passed where its closure says. -/
theorem passed_of_registered {handle : String} (hmem : handle ∈ (Call.of e f site).registered) :
    ∃ i j a, f.args[i]? = some a ∧ (Call.of e f site).Registers i a handle ∧ a.closure = some j ∧
      (Call.of e f site).slots[(Call.of e f site).position j]? = some (.handle handle) := by
  obtain ⟨i, a, ha, hregistered⟩ := mem_registered.mp hmem
  obtain ⟨hrole, hclosure, hhandle⟩ := Analysis.given_of_registered hregistered
  obtain ⟨j, hdata⟩ := Analysis.exists_data hhandle
  obtain ⟨a', b, hnames⟩ := names_of_dataOf hdata
  have ha' := hnames.callback
  rw [ha, Option.some.injEq] at ha'
  subst ha'
  obtain ⟨-, r, hr⟩ := Analysis.exists_reference_of_takesClosure hnames.closure
  obtain ⟨l, -, hpart⟩ := exists_part e site ha
  have hname : a.type.referenceName.getD "" = r.name := by
    rw [NativeType.referenceName, hr]
    rfl
  unfold Part.of at hpart
  rw [analysis_of, hrole] at hpart
  dsimp only at hpart
  rw [Part.callback_of_handle hclosure hhandle, Part.closure, hname] at hpart
  exact ⟨i, j, a, ha, ⟨r, _, _, hr, hpart, rfl, rfl, rfl⟩, hnames.names,
    slot_of_dataOf hnames.data hdata hhandle⟩

/-- The handle of a pair is registered exactly if the closure is given. -/
theorem mem_registered_iff_gives {i j : Nat} {a b : Argument} {handle : String}
    (hnames : Analysis.Names e f i j a b)
    (hhandle : (Analysis.of e f site).1.handles.lookup i = some handle) :
    handle ∈ (Call.of e f site).registered ↔ (Call.of e f site).Gives i a := by
  have hcallback := (Analysis.exists_reference_of_takesClosure hnames.closure).1
  rw [Gives, analysis_of, ← Analysis.role_callback_iff hnames.callback hcallback, mem_registered]
  constructor
  · rintro ⟨k, a', ha', hregistered⟩
    obtain ⟨hrole, -, hhandle'⟩ := Analysis.given_of_registered hregistered
    cases Analysis.handle_inj hhandle hhandle'
    have ha := hnames.callback
    rw [ha', Option.some.injEq] at ha
    rwa [← ha]
  · intro hrole
    refine ⟨i, a, hnames.callback, ?_⟩
    have hclosure := hnames.closure
    rw [Analysis.registered?, hrole, Analysis.of_env, hclosure]
    exact hhandle

/-- Handles are passed once and registered at most once, and a handle is registered exactly if its
closure is given. -/
theorem handsOver_of (e : Env) (f : Function) (site : Site) : (Call.of e f site).HandsOver := by
  have hfunction : (Call.of e f site).analysis.function = f := Analysis.of_function e f site
  have henv : (Call.of e f site).analysis.env = e := Analysis.of_env e f site
  constructor
  case handed => exact nodup_handed e f site
  case registered => exact nodup_registered e f site
  case early => exact fun st hst => registered_of_mem_after hst
  case passed =>
    intro handle hmem
    rw [hfunction]
    exact passed_of_registered hmem
  case bound =>
    intro handle hmem
    rw [handed_of, List.mem_filterMap] at hmem
    obtain ⟨⟨b, j⟩, hb, hhanded⟩ := hmem
    obtain ⟨i, hdata, hhandle⟩ := Analysis.dataOf_of_handed hhanded
    obtain ⟨a, b', hnames⟩ := names_of_dataOf hdata
    rw [hfunction, henv]
    exact ⟨i, j, a, hnames.callback, hnames.closure, hnames.names,
      slot_of_dataOf hnames.data hdata hhandle, mem_registered_iff_gives hnames hhandle⟩

end

end Call

/-! ## A closure that releases another -/

/-- A callback that takes a number and the pointer for its user data. -/
def applyFunc : Callback :=
  { name := "ApplyFunc"
    args := [{ name := "value", type := .scalar .int32 },
      { name := "user_data", type := NativeType.void.pointer }] }

/-- The type of an argument that takes the callback. -/
def applyType : NativeType :=
  .plain { tag := .interface, reference := some ⟨.callback, "ApplyFunc", none⟩ }

/-- A function of two closures, of which the second is to release the first. -/
def handler : Function :=
  { name := "handler", symbol := "demo_handler"
    args := [
      { name := "func", type := applyType, closure := some 2, destroy := some 1
        scope := .notified },
      { name := "other", type := applyType, closure := some 3 },
      { name := "data", type := NativeType.void.pointer },
      { name := "data2", type := NativeType.void.pointer }] }

/-- The namespace of the function and its type of closures. -/
def handling : Scope :=
  { space := { name := "Demo", version := "1.0"
               infos := [.callback applyFunc, .function handler] } }

/-- The handle of the second closure is passed, and nothing binds it. -/
theorem not_registered_handler :
    handling.space.validate = .ok handling.space ∧
      .function handler { id := 0, index := 1 } ∈
        (itemsFrom (Env.of handling) 0 {} handling.space.infos).1 ∧
          (Call.of (Env.of handling) handler { id := 0, index := 1 }).slots =
            [.trampoline "ApplyFunc", .destroyNotify, .handle "handle", .handle "handle1"] ∧
              (Call.of (Env.of handling) handler { id := 0, index := 1 }).handed =
                ["handle", "handle1"] ∧
                  (Call.of (Env.of handling) handler { id := 0, index := 1 }).registered =
                    ["handle"] :=
  ⟨rfl, List.mem_cons_of_mem _ List.mem_cons_self, rfl, rfl, rfl⟩

end Introspect.Binding
