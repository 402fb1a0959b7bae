import Introspect.Binding.Call
import Introspect.Proofs.Pairing
import Introspect.Proofs.Preparation

/-!
# The layout of a call

A binding and the invoker behind it lay out the same native call from the same description, each by
itself: the binding gives every native argument a part and numbers the slots of the out block, the
invoker gives every native argument a carrier and records which positions the block feeds. The two
agree. There are as many parts as carriers and as many slots as fed positions, and whatever the
binding does through slot `k` for an argument, the `k`-th fed position is where that argument's part
stands.

Both sides count the arguments that use the block from the left. What is left to show is that
nothing in a part goes through another slot than that of its own argument, but for a length, which
is read from the slot of the argument that carries it.
-/

namespace Introspect.Binding

open Naming (Locals)

/-! ## Slots of the out block -/

theorem length_assignOutSlots (args : List Argument) :
    ∀ k, ((assignOutSlots k args).filter Option.isSome).length =
    args.countP Argument.usesOutSlot := by
  induction args with
  | nil => intro k; rfl
  | cons a rest ih =>
      intro k
      rw [assignOutSlots]
      split
      · next ha =>
          rw [List.countP_cons_of_pos ha, List.filter_cons_of_pos rfl, List.length_cons, ih]
      · next ha =>
          rw [List.countP_cons_of_neg ha, List.filter_cons_of_neg (by simp), ih]

/-- The number of a slot counts the arguments before it that use the block. -/
theorem getElem?_assignOutSlots {args : List Argument} :
    ∀ {k i : Nat}, (assignOutSlots k args)[i]? = args[i]?.map fun a =>
      if a.usesOutSlot then some (k + (args.take i).countP Argument.usesOutSlot) else none := by
  induction args with
  | nil => intro k i; rfl
  | cons b rest ih =>
      intro k i
      rw [assignOutSlots]
      cases i with
      | zero => split <;> rename_i hb <;> simp [hb]
      | succ i =>
          rw [List.take_succ_cons, List.getElem?_cons_succ]
          split <;> rename_i hb
          · rw [List.countP_cons_of_pos hb, List.getElem?_cons_succ, ih]
            simp only [Nat.add_assoc, Nat.add_comm 1]
          · rw [List.countP_cons_of_neg hb, List.getElem?_cons_succ, ih]

namespace Analysis

theorem outPlace_inj {an : Analysis} {k l : Nat} (h : an.outPlace k = an.outPlace l) : k = l := by
  have hlist := congrArg String.toList h
  simp only [outPlace, String.toList_append, List.append_cancel_right_eq,
    List.append_cancel_left_eq] at hlist
  exact Naming.number_inj hlist

/-! ## What is known of a function -/

/-- What is known of a function is what was known at the start, and its callbacks. -/
theorem of_eq (e : Env) (f : Function) (site : Site) :
    ∃ d r h, (of e f site).1 =
      { (start e f site).1 with dataOf := d, releaseOf := r, handles := h } := by
  unfold of
  refine List.foldlRecOn (motive := fun st : Analysis × Locals => ∃ d r h, st.1 =
    { (start e f site).1 with dataOf := d, releaseOf := r, handles := h }) _ _ ⟨_, _, _, rfl⟩ ?_
  rintro st ⟨d, r, h, hst⟩ arg -
  obtain ⟨d', r', h', hpair⟩ := pair_eq f st arg.1 arg.2
  refine ⟨d', r', h', hpair.trans ?_⟩
  rw [hst]

section
variable (e : Env) (f : Function) (site : Site)

theorem params_of : (of e f site).2.params = (paramLocals f).params := by
  unfold of
  refine List.foldlRecOn (motive := fun st : Analysis × Locals =>
    st.2.params = (paramLocals f).params) _ _ (params_start e f site) ?_
  intro st hst arg _
  exact (params_pair f st arg.1 arg.2).trans hst

@[simp] theorem of_env : (of e f site).1.env = e := by
  obtain ⟨d, r, h, heq⟩ := of_eq e f site
  rw [heq]
  rfl

@[simp] theorem of_function : (of e f site).1.function = f := by
  obtain ⟨d, r, h, heq⟩ := of_eq e f site
  rw [heq]
  rfl

@[simp] theorem of_site : (of e f site).1.site = site := by
  obtain ⟨d, r, h, heq⟩ := of_eq e f site
  rw [heq]
  rfl

@[simp] theorem of_selfFirst : (of e f site).1.selfFirst = takesSelfFirst e f site := by
  obtain ⟨d, r, h, heq⟩ := of_eq e f site
  rw [heq]
  rfl

theorem of_receiver :
    (of e f site).1.receiver = (receiverOf f site (takesSelfFirst e f site) (paramLocals f)).1 := by
  obtain ⟨d, r, h, heq⟩ := of_eq e f site
  rw [heq]
  rfl

theorem of_outSlots : (of e f site).1.outSlots = assignOutSlots 0 f.args := by
  obtain ⟨d, r, h, heq⟩ := of_eq e f site
  rw [heq]
  rfl

theorem of_hidden :
    (of e f site).1.hidden = hiddenLengths f (takesSelfFirst e f site) := by
  obtain ⟨d, r, h, heq⟩ := of_eq e f site
  rw [heq]
  rfl

theorem valueSlots_of : (of e f site).1.valueSlots = f.args.countP Argument.usesOutSlot := by
  rw [valueSlots, of_outSlots, length_assignOutSlots]

end

/-- An argument has a slot exactly when it uses the block. -/
theorem outSlot?_of_eq_some (e : Env) {f : Function} (site : Site) {i k : Nat} :
    (of e f site).1.outSlot? i = some k ↔
      ∃ a, f.args[i]? = some a ∧ a.usesOutSlot = true ∧
        k = (f.args.take i).countP Argument.usesOutSlot := by
  rw [outSlot?, of_outSlots, getElem?_assignOutSlots, Nat.zero_add]
  cases f.args[i]? with
  | none => simp
  | some a =>
      rw [Option.map_some]
      by_cases ha : a.usesOutSlot = true
      · rw [if_pos ha, Option.join_some, Option.some.injEq]
        constructor
        · rintro rfl
          exact ⟨a, rfl, ha, rfl⟩
        · rintro ⟨_, -, -, rfl⟩
          rfl
      · rw [if_neg ha, Option.join_some]
        constructor
        · intro h
          cases h
        · rintro ⟨_, hsome, hslot, -⟩
          cases hsome
          exact absurd hslot ha

end Analysis

/-! ## Readings -/

namespace SlotReading

/-- The slot that is read. -/
def slot? : SlotReading → Option String
  | .cell slot _ | .bits _ slot _ | .text slot _ _ | .wrapped _ slot | .object _ slot
  | .array _ slot _ _ => some slot
  | .unmapped _ => none

/-- The place that the length of an array is set from. -/
def length? : SlotReading → Option LengthPlace
  | .array _ _ _ (.along place) => some place
  | _ => none

/-- The block and the slot that the length of an array is read from. -/
def lengthSlot? : SlotReading → Option (String × Nat)
  | .array _ _ _ (.along (.outSlot block k _)) => some (block, k)
  | _ => none

theorem length_of_lengthSlot {r : SlotReading} {block : String} {k : Nat}
    (h : r.lengthSlot? = some (block, k)) : ∃ c, r.length? = some (.outSlot block k c) := by
  unfold lengthSlot? at h
  split at h
  · cases h
    exact ⟨_, rfl⟩
  · cases h

end SlotReading

/-- What a reading of a slot may refer to: the slot itself, and the place of a length. -/
def ReadsFrom (slot : String) (length : ArrayLength) (r : SlotReading) : Prop :=
  (∀ place, r.slot? = some place → place = slot) ∧
    ∀ place, r.length? = some place → length = .along place

namespace Output

theorem readsFrom_unmapped {slot : String} {length : ArrayLength} (what : String) :
    ReadsFrom slot length (unmapped what).value := by
  constructor
  · intro place h
    cases h
  · intro place h
    cases h

/-- A reading that takes no length refers to its slot only. -/
theorem readsFrom_of_slot {slot : String} {length : ArrayLength} {r : SlotReading}
    (hslot : r.slot? = some slot) (hlength : r.length? = none) : ReadsFrom slot length r := by
  constructor
  · intro place h
    rw [hslot] at h
    exact (Option.some.inj h).symm
  · intro place h
    rw [hlength] at h
    cases h

theorem readsFrom_scalar {t : NativeType} {host slot : String} {length : ArrayLength} {c : Cell} :
    ReadsFrom slot length (scalar t host slot c).value := by
  unfold scalar
  split
  · exact readsFrom_unmapped _
  · exact readsFrom_of_slot rfl rfl

theorem readsFrom_bits {t : NativeType} {host slot : String} {length : ArrayLength} {c : Cell} :
    ReadsFrom slot length (bits t host slot c).value := by
  unfold bits
  split
  · exact readsFrom_unmapped _
  · exact readsFrom_of_slot rfl rfl

theorem readsFrom_named {s : Scope} {t : NativeType} {r : Reference} {slot : String}
    {length : ArrayLength} {declared : Bool} :
    ReadsFrom slot length (named s t r slot declared).value := by
  unfold named
  cases s.kind r with
  | struct | union | interface =>
      dsimp only
      split
      · exact readsFrom_of_slot rfl rfl
      · exact readsFrom_unmapped _
  | object =>
      dsimp only
      split
      · exact readsFrom_unmapped _
      · split
        · exact readsFrom_of_slot rfl rfl
        · exact readsFrom_of_slot rfl rfl
  | enum | flags => exact readsFrom_bits
  | callback | unresolved => exact readsFrom_unmapped _

/-- A view refers to a length only when it takes one from elsewhere. -/
theorem readsFrom_view {path slot var : String} {length : ArrayLength} :
    ReadsFrom slot length (.array path slot var length) := by
  constructor
  · intro place h
    exact (Option.some.inj h).symm
  · intro place h
    cases length <;> cases h
    rfl

theorem readsFrom_array {s : Scope} {t : NativeType} {slot : String} {length : ArrayLength}
    {locals : Locals} : ReadsFrom slot length (array s t slot length locals).1.value := by
  unfold array
  cases ArrayHost.of s t with
  | view type path => cases length <;> exact readsFrom_view
  | pointer => exact readsFrom_of_slot rfl rfl
  | unmapped what => exact readsFrom_unmapped _

/-- Whatever a native type is read as, it is read from its slot. -/
theorem readsFrom_of {s : Scope} {t : NativeType} {slot : String} {length : ArrayLength}
    {o : OutputOptions} {locals : Locals} :
    ReadsFrom slot length (of s t slot length o locals).1.value := by
  unfold of
  cases t.tag with
  | void =>
      dsimp only
      split
      · exact readsFrom_of_slot rfl rfl
      · exact readsFrom_unmapped _
  | boolean | int8 | uint8 | int16 | uint16 | int32 | uint32 | int64 | uint64 | float | double
  | gtype | unichar => exact readsFrom_scalar
  | utf8 | filename | glist | gslist | ghash | error => exact readsFrom_of_slot rfl rfl
  | array => exact readsFrom_array
  | interface =>
      cases t.reference with
      | some r => exact readsFrom_named
      | none => exact readsFrom_unmapped _

end Output

/-! ## Roles -/

/-- What stands behind each role of an argument. -/
def Role.Warranted (an : Analysis) (i : Nat) (a : Argument) : Role → Prop
  | .self => i = 0 ∧ an.selfFirst = true
  | .hidden h => an.hidden.lookup i = some h
  | .userData _ => (an.dataOf.lookup i).isSome = true
  | .release => (an.releaseOf.lookup i).isSome = true
  | .callback => a.direction = .in ∧ isCallback an.env.scope a = true
  | .input => a.usesOutSlot = false
  | .output => a.direction = .out ∧ a.usesOutSlot = true
  | .inout => a.direction = .inout

theorem Analysis.warranted_role (an : Analysis) (i : Nat) (a : Argument) :
    (an.role i a).Warranted an i a := by
  unfold Analysis.role
  split
  · next hself =>
      rw [Bool.and_eq_true, decide_eq_true_eq] at hself
      exact hself
  · split
    · next h hlookup => exact hlookup
    · split
      · next callback hlookup =>
          show (an.dataOf.lookup i).isSome = true
          rw [hlookup]
          rfl
      · split
        · next hrelease => exact hrelease
        · split
          · next hdir =>
              split
              · next hcallback => exact ⟨hdir, hcallback⟩
              · show a.usesOutSlot = false
                rw [Argument.usesOutSlot, hdir]
          · next hdir =>
              split
              · next huses => exact ⟨hdir, huses⟩
              · next huses => exact Bool.eq_false_iff.mpr huses
          · next hdir => exact hdir

/-! ## What a part goes through -/

/-- What a statement reads from a slot. -/
def Statement.reading? : Statement → Option SlotReading
  | .writeBack _ r => some r
  | _ => none

/-- The place that a statement fills. -/
def Statement.filled? : Statement → Option String
  | .fill place _ => some place
  | _ => none

namespace Part

/-- All the statements of a part, in their order. -/
def statements (p : Part) : List Statement := p.before ++ p.writeBack ++ p.after

/-- All that a part reads from slots. -/
def readings (p : Part) : List SlotReading :=
  (p.result.map fun (_, o) => o.value).toList ++ p.statements.filterMap Statement.reading?

/-- The places a part reads or fills. -/
def places (p : Part) : List String :=
  p.readings.filterMap SlotReading.slot? ++ p.statements.filterMap Statement.filled?

/-- The slots a part reads lengths from. -/
def lengths (p : Part) : List (String × Nat) := p.readings.filterMap SlotReading.lengthSlot?

end Part

/-- The part of the argument at `i` goes through the argument's own slot, and takes no length but
from the slot of the argument that carries it. -/
structure Part.KeepsTo (an : Analysis) (i : Nat) (a : Argument) (p : Part) : Prop where
  place : ∀ place ∈ p.places,
    a.usesOutSlot = true ∧ place = an.outPlace ((an.outSlot? i).getD 0)
  length : ∀ block k, (block, k) ∈ p.lengths →
    ∃ j, a.type.lengthArg = some j ∧ block = an.outVar ∧ an.outSlot? j = some k

/-- A statement that copies a text or releases the copy. -/
def Statement.copies : Statement → Bool
  | .copyText .. | .free _ => true
  | _ => false

/-- Copying touches no slot. -/
theorem Statement.untouched_of_copies {st : Statement} (h : st.copies = true) :
    st.reading? = none ∧ st.filled? = none := by
  cases st with
  | copyText | free => exact ⟨rfl, rfl⟩
  | _ => cases h

/-- Around an input texts are copied and nothing else is done, and no input is a handle. -/
structure Input.Quiet (v : Input) : Prop where
  statements : ∀ st ∈ v.before ++ v.after, st.copies = true
  slot : ∀ var, v.slot ≠ .make .handle var

namespace Input

theorem quiet_simple {host value : String} {cell : Cell} (h : cell ≠ .handle) :
    Quiet (simple host cell value) where
  statements := List.forall_mem_nil _
  slot _ heq := by
    cases heq
    exact h rfl

theorem quiet_unmapped {what : String} : Quiet (unmapped what) where
  statements := List.forall_mem_nil _
  slot _ heq := by cases heq

theorem quiet_scalar {t : NativeType} {host value : String} {cell : Cell} (h : cell ≠ .handle) :
    Quiet (scalar t host cell value) := by
  unfold scalar
  split
  · exact quiet_unmapped
  · exact quiet_simple h

theorem quiet_byPointer {host var : String} {nullable : Bool} :
    Quiet (byPointer host var nullable) := by
  unfold byPointer
  split
  · exact quiet_simple (by decide)
  · exact quiet_simple (by decide)

theorem quiet_text {var copy : String} {nullable : Bool} {transfer : Transfer} :
    Quiet (text var nullable transfer copy) where
  statements := by
    intro st hst
    unfold text at hst
    cases transfer <;> simp only [List.append_nil, List.cons_append, List.nil_append,
      List.mem_cons, List.not_mem_nil, or_false] at hst
    · rcases hst with rfl | rfl <;> rfl
    · subst hst; rfl
    · subst hst; rfl
  slot _ heq := by cases heq

theorem quiet_named {s : Scope} {t : NativeType} {r : Reference} {var : String}
    {nullable : Bool} : Quiet (named s t r var nullable) := by
  unfold named
  cases s.kind r with
  | struct | union | object | interface =>
      dsimp only
      split
      · exact quiet_byPointer
      · exact quiet_unmapped
  | enum | flags => exact quiet_scalar (by decide)
  | callback | unresolved => exact quiet_unmapped

theorem quiet_of {s : Scope} {t : NativeType} {var : String} {nullable : Bool} {transfer : Transfer}
    {locals : Locals} : Quiet (of s t var nullable transfer locals).1 := by
  unfold of
  cases t.tag with
  | void =>
      dsimp only
      split
      · exact quiet_simple (by decide)
      · exact quiet_unmapped
  | boolean | int8 | uint8 | int16 | uint16 | int32 | uint32 | int64 | uint64 | float | double
  | gtype | unichar => exact quiet_scalar (by decide)
  | utf8 | filename => exact quiet_text
  | array =>
      dsimp only
      cases ArrayHost.of s t with
      | view type path => exact quiet_simple (by decide)
      | pointer => exact quiet_simple (by decide)
      | unmapped what => exact quiet_unmapped
  | interface =>
      cases t.reference with
      | some r => exact quiet_named
      | none => exact quiet_unmapped
  | glist | gslist | ghash | error =>
      dsimp only
      exact quiet_byPointer

end Input

namespace Analysis

/-- A length that goes with an array has its place by the argument that carries it. -/
theorem lengthPlace_of_arrayLength {an : Analysis} {locals : Locals} {t : NativeType}
    {place : LengthPlace} (h : an.arrayLength locals t = .along place) :
    ∃ n, t.lengthArg = some n ∧ an.lengthPlace? locals n = some place := by
  have halong : (if t.tag = .array then t.lengthArg.bind (an.lengthPlace? locals) else none) =
      some place := by
    unfold arrayLength ArrayLength.of at h
    split at h
    · next heq =>
        cases h
        exact heq
    · cases h
    · split at h <;> cases h
  split at halong
  · exact Option.bind_eq_some_iff.mp halong
  · cases halong

/-- The place of a length is the slot of the argument that carries it, or else its variable. -/
theorem lengthPlace_cases {an : Analysis} {locals : Locals} {n : Nat} {place : LengthPlace}
    (h : an.lengthPlace? locals n = some place) :
    ∃ a cell, an.function.args[n]? = some a ∧ numericCell? a.type.tag = some cell ∧
      ((∃ k, an.outSlot? n = some k ∧ place = .outSlot an.outVar k cell) ∨
        an.outSlot? n = none ∧ ∃ var, locals.param? n = some var ∧ place = .parameter var) := by
  unfold lengthPlace? at h
  obtain ⟨a, ha, h⟩ := Option.bind_eq_some_iff.mp h
  obtain ⟨cell, hcell, h⟩ := Option.bind_eq_some_iff.mp h
  refine ⟨a, cell, ha, hcell, ?_⟩
  split at h
  · next k hk =>
      cases h
      exact .inl ⟨k, hk, rfl⟩
  · next hnone =>
      obtain ⟨var, hvar, rfl⟩ := Option.map_eq_some_iff.mp h
      exact .inr ⟨hnone, var, hvar, rfl⟩

theorem slot_of_lengthPlace {an : Analysis} {locals : Locals} {n k : Nat} {block : String}
    {c : Cell}
    (h : an.lengthPlace? locals n = some (.outSlot block k c)) :
    block = an.outVar ∧ an.outSlot? n = some k := by
  obtain ⟨a, cell, -, -, ⟨k', hk, hplace⟩ | ⟨-, var, -, hplace⟩⟩ := lengthPlace_cases h
  · cases hplace
    exact ⟨rfl, hk⟩
  · cases hplace

end Analysis

namespace Part

variable {an : Analysis} {i : Nat} {a : Argument}

/-- A part that leaves no value and whose statements touch no slot goes through none. -/
theorem keepsTo_of_quiet {p : Part} (hresult : p.result = none)
    (h : ∀ st ∈ p.statements, st.reading? = none ∧ st.filled? = none) : KeepsTo an i a p := by
  have hread : p.statements.filterMap Statement.reading? = [] :=
    List.filterMap_eq_nil_iff.mpr fun st hst => (h st hst).1
  have hfill : p.statements.filterMap Statement.filled? = [] :=
    List.filterMap_eq_nil_iff.mpr fun st hst => (h st hst).2
  have hreadings : p.readings = [] := by rw [readings, hresult, hread]; rfl
  constructor
  · intro place hplace
    rw [places, hreadings, hfill] at hplace
    cases hplace
  · intro block k hk
    rw [lengths, hreadings] at hk
    cases hk

theorem keepsTo_callback {var : String} : KeepsTo an i a (callback an i a var) := by
  rcases callback_cases an i a var with ⟨handle, -, -, h⟩ | h | ⟨reason, -, h⟩ <;> rw [h]
  · refine keepsTo_of_quiet rfl ?_
    intro st hst
    simp only [closure, statements] at hst
    split at hst <;> simp only [List.append_nil, List.cons_append, List.nil_append,
      List.mem_cons, List.not_mem_nil, or_false] at hst
    · rcases hst with rfl | rfl <;> exact ⟨rfl, rfl⟩
    · subst hst; exact ⟨rfl, rfl⟩
  · exact keepsTo_of_quiet rfl (List.forall_mem_nil _)
  · exact keepsTo_of_quiet rfl (List.forall_mem_nil _)

theorem keepsTo_input {e : Env} {var : String} {locals : Locals} :
    KeepsTo an i a (input e a var locals).1 := by
  refine keepsTo_of_quiet rfl ?_
  intro st hst
  simp only [input, statements, List.append_nil] at hst
  exact Statement.untouched_of_copies (Input.quiet_of.statements st hst)

theorem keepsTo_output {var : String} {locals : Locals} (ha : a.usesOutSlot = true) :
    KeepsTo an i a (output an i a var locals).1 := by
  obtain ⟨hslot, hlength⟩ : ReadsFrom (an.outPlace ((an.outSlot? i).getD 0))
      (an.arrayLength locals a.type)
      (Output.of an.env.scope a.type (an.outPlace ((an.outSlot? i).getD 0))
        (an.arrayLength locals a.type) ⟨a.transfer, a.nullable, false⟩ locals).1.value :=
    Output.readsFrom_of
  constructor
  · intro place hplace
    simp only [output, places, readings, statements, Option.map_some, Option.toList_some,
      List.append_nil, List.filterMap_nil, List.mem_filterMap, List.mem_singleton,
      exists_eq_left] at hplace
    exact ⟨ha, hslot place hplace⟩
  · intro block k hk
    simp only [output, lengths, readings, statements, Option.map_some, Option.toList_some,
      List.append_nil, List.filterMap_nil, List.mem_filterMap, List.mem_singleton,
      exists_eq_left] at hk
    obtain ⟨c, hc⟩ := SlotReading.length_of_lengthSlot hk
    obtain ⟨n, hn, hplace⟩ := Analysis.lengthPlace_of_arrayLength (hlength _ hc)
    exact ⟨n, hn, Analysis.slot_of_lengthPlace hplace⟩

/-- A value that goes both ways fills the slot it is read back from. -/
theorem keepsTo_exchange {v : Input} {o : Output} {var place : String} {param : Option Param}
    (ha : a.usesOutSlot = true) (hplace : place = an.outPlace ((an.outSlot? i).getD 0))
    (hv : v.Quiet) (ho : ReadsFrom place .unknown o.value) :
    KeepsTo an i a
      { slot := .empty, param, before := v.before ++ [.fill place v.slot]
        writeBack := [.writeBack var o.value], after := v.after } := by
  have hread : ∀ l : List Statement, (∀ st ∈ l, st ∈ v.before ++ v.after) →
      l.filterMap Statement.reading? = [] := fun l hl =>
    List.filterMap_eq_nil_iff.mpr fun st hst =>
      (Statement.untouched_of_copies (hv.statements st (hl st hst))).1
  have hfill : ∀ l : List Statement, (∀ st ∈ l, st ∈ v.before ++ v.after) →
      l.filterMap Statement.filled? = [] := fun l hl =>
    List.filterMap_eq_nil_iff.mpr fun st hst =>
      (Statement.untouched_of_copies (hv.statements st (hl st hst))).2
  have hbefore : ∀ st ∈ v.before, st ∈ v.before ++ v.after := fun st hst =>
    List.mem_append_left _ hst
  have hafter : ∀ st ∈ v.after, st ∈ v.before ++ v.after := fun st hst =>
    List.mem_append_right _ hst
  -- Nothing but the statement that fills the slot and the one that reads it back is left.
  constructor
  · intro q hq
    simp only [places, readings, statements, List.filterMap_append, hread v.before hbefore,
      hread v.after hafter, hfill v.before hbefore, hfill v.after hafter, List.filterMap_cons,
      List.filterMap_nil, Statement.reading?, Statement.filled?, Option.map_none,
      Option.toList_none, List.nil_append, List.append_nil, List.mem_append,
      List.mem_singleton] at hq
    rcases hq with hq | rfl
    · split at hq
      · cases hq
      · next hslot =>
          rw [List.mem_singleton] at hq
          subst hq
          exact ⟨ha, (ho.1 _ hslot).trans hplace⟩
    · exact ⟨ha, hplace⟩
  · intro block k hk
    simp only [lengths, readings, statements, List.filterMap_append, hread v.before hbefore,
      hread v.after hafter, List.filterMap_cons, List.filterMap_nil, Statement.reading?,
      Option.map_none, Option.toList_none, List.nil_append, List.append_nil] at hk
    split at hk
    · cases hk
    · next hlength =>
        rw [List.mem_singleton] at hk
        subst hk
        obtain ⟨c, hc⟩ := SlotReading.length_of_lengthSlot hlength
        cases ho.2 _ hc

theorem keepsTo_inout {var : String} {locals : Locals} (ha : a.usesOutSlot = true) :
    KeepsTo an i a (inout an i a var locals).1 := by
  have hfailed : KeepsTo an i a (unexchanged a var) := by
    refine keepsTo_of_quiet rfl ?_
    intro st hst
    simp only [unexchanged, statements, List.append_nil, List.mem_singleton] at hst
    subst hst
    exact ⟨rfl, rfl⟩
  rcases inout_cases an i a var locals with h | ⟨value, -, h | ⟨-, h⟩⟩ <;> rw [h]
  · exact hfailed
  · exact hfailed
  · exact keepsTo_exchange ha rfl Input.quiet_of Output.readsFrom_of

/-- The part of an argument goes through the slot of the argument. -/
theorem keepsTo_of {locals : Locals} : KeepsTo an i a (of an i a locals).1 := by
  have hplain : ∀ s : Slot, KeepsTo an i a { slot := s } := fun s =>
    keepsTo_of_quiet rfl (List.forall_mem_nil _)
  have hwarranted := an.warranted_role i a
  unfold of
  dsimp only
  cases hrole : an.role i a with
  | self => exact hplain _
  | hidden h =>
      cases h with
      | fromArray array => exact hplain _
      | outSlot => exact hplain _
  | userData handle => exact hplain _
  | release => exact hplain _
  | callback => exact keepsTo_callback
  | input => exact keepsTo_input
  | output =>
      rw [hrole] at hwarranted
      exact keepsTo_output hwarranted.2
  | inout =>
      rw [hrole] at hwarranted
      refine keepsTo_inout ?_
      rw [Argument.usesOutSlot, hwarranted]

/-! ## Parts by position -/

/-- The part of an instance does nothing but pass it. -/
theorem eq_of_mem_receiver {p : Part} (h : p ∈ receiver an) :
    p = { slot := .self } ∨
      ∃ var, p = { slot := .value (.make .ptr var), param := some ⟨var, pointerType⟩ } := by
  unfold receiver at h
  split at h
  · cases h
  · split at h
    · cases h
    · exact .inl (List.mem_singleton.mp h)
  · exact .inr ⟨_, List.mem_singleton.mp h⟩

theorem eq_of_mem_error {p : Part} (h : p ∈ error an) : p = { slot := .empty } := by
  unfold error at h
  split at h
  · exact List.mem_singleton.mp h
  · cases h

theorem length_allFrom {args : List Argument} :
    ∀ {i : Nat} {locals : Locals}, (allFrom an i locals args).1.length = args.length := by
  induction args with
  | nil => intro i locals; rfl
  | cons a rest ih =>
      intro i locals
      rw [allFrom]
      exact congrArg (· + 1) ih

/-- The parts stand in the order of the arguments, and find the parameters where they were. -/
theorem getElem?_allFrom {args : List Argument} :
    ∀ (i : Nat) {n : Nat} {a : Argument} (locals : Locals), args[n]? = some a →
      ∃ l, l.params = locals.params ∧
        (allFrom an i locals args).1[n]? = some (of an (i + n) a l).1 := by
  induction args with
  | nil => intro i n a locals h; cases h
  | cons b rest ih =>
      intro i n a locals h
      rw [allFrom]
      cases n with
      | zero =>
          simp only [List.getElem?_cons_zero, Option.some.injEq] at h
          subst h
          exact ⟨locals, rfl, rfl⟩
      | succ n =>
          rw [List.getElem?_cons_succ] at h
          obtain ⟨l, hparams, hl⟩ := ih (i + 1) (of an i b locals).2 h
          refine ⟨l, hparams.trans params_of, ?_⟩
          rw [show i + (n + 1) = i + 1 + n by omega, ← hl]
          rfl

end Part

/-! ## Calls -/

namespace Call

/-- The position of the argument at `i` among the parts. -/
def position (c : Call) (i : Nat) : Nat := (Part.receiver c.analysis).length + i

/-- The binding goes through slot `k` of the out block for the argument at `i`: its part reads or
fills the slot, or an array takes its length from there. -/
inductive Through (c : Call) (i k : Nat) : Prop
  | value {p : Part} {a : Argument} :
      c.analysis.function.args[i]? = some a → c.parts[c.position i]? = some p →
      c.analysis.outPlace k ∈ p.places → Through c i k
  | length {p : Part} {j : Nat} {a : Argument} :
      c.analysis.function.args[j]? = some a → c.parts[c.position j]? = some p →
      a.type.lengthArg = some i → (c.analysis.outVar, k) ∈ p.lengths → Through c i k
  | resultLength {var : String} {o : Output} :
      c.result = some (var, o) → c.analysis.function.returns.lengthArg = some i →
      o.value.lengthSlot? = some (c.analysis.outVar, k) → Through c i k

/-- The call has the layout that the invoker expects. -/
structure Fits (c : Call) (iv : Invoker) : Prop where
  slots : c.slots.length = iv.arity
  block : c.analysis.outCount = iv.outArity
  noBlock : c.block? = none ↔ iv.outArity = 0
  /-- The part of each argument stands at the argument's position. -/
  part : ∀ i a, c.analysis.function.args[i]? = some a →
    ∃ l, c.parts[c.position i]? = some (Part.of c.analysis i a l).1
  /-- Every argument that uses the out block has a slot, which is fed at the argument's position. -/
  slot : ∀ i a, c.analysis.function.args[i]? = some a → a.usesOutSlot = true →
    ∃ k, c.analysis.outSlot? i = some k ∧ iv.fed[k]? = some (c.position i)
  through : ∀ i k, c.Through i k →
    (∃ a, c.analysis.function.args[i]? = some a ∧ a.usesOutSlot = true) ∧
      iv.fed[k]? = some (c.position i)
  /-- The check for an error reads the last slot, fed at the last position. -/
  error : c.analysis.function.flags.throws = true →
    ∃ k, c.analysis.errorSlot = some k ∧ k + 1 = iv.outArity ∧
      iv.fed[k]? = some (iv.arity - 1) ∧ c.slots[iv.arity - 1]? = some .empty

/-- There is a part for an instance before the arguments exactly for a method. -/
theorem length_receiver (e : Env) (f : Function) (site : Site) :
    (Part.receiver (Analysis.of e f site).1).length = f.flags.isMethod.toNat := by
  have hself : f.flags.isMethod = true → Analysis.takesSelfFirst e f site = false := by
    intro hmethod
    unfold Analysis.takesSelfFirst
    split
    · rw [hmethod]; rfl
    · rfl
  have hcontainer : site.container = none → Analysis.takesSelfFirst e f site = false := by
    intro hnone
    unfold Analysis.takesSelfFirst
    rw [hnone]
  unfold Part.receiver
  rw [Analysis.of_receiver, Analysis.of_selfFirst]
  unfold Analysis.receiverOf
  cases hmethod : f.flags.isMethod with
  | true =>
      rw [hself hmethod]
      cases site.container <;> rfl
  | false =>
      cases hc : site.container with
      | none => rw [hcontainer hc]; rfl
      | some c => cases Analysis.takesSelfFirst e f site <;> rfl

/-- The result takes no length but that of the argument that carries it. -/
theorem lengthPlace_of_resultOf {an : Analysis} {locals : Locals} {var : String} {o : Output}
    {place : LengthPlace} (hresult : resultOf an locals = some (var, o))
    (h : o.value.length? = some place) :
    ∃ n, an.function.returns.lengthArg = some n ∧ an.lengthPlace? locals n = some place := by
  unfold resultOf at hresult
  dsimp only at hresult
  split at hresult
  · cases hresult
  · rw [Option.some.injEq, Prod.mk.injEq] at hresult
    obtain ⟨-, rfl⟩ := hresult
    split at h
    · cases h
    · exact Analysis.lengthPlace_of_arrayLength (Output.readsFrom_of.2 place h)

section
variable {e : Env} {f : Function} {site : Site} {i : Nat} {a : Argument}

theorem analysis_of : (Call.of e f site).analysis = (Analysis.of e f site).1 := rfl

theorem parts_of :
    (Call.of e f site).parts = Part.receiver (Analysis.of e f site).1 ++
      (Part.allFrom (Analysis.of e f site).1 0 (Analysis.of e f site).2 f.args).1 ++
        Part.error (Analysis.of e f site).1 := rfl

theorem result_of :
    (Call.of e f site).result = resultOf (Analysis.of e f site).1
      (Part.allFrom (Analysis.of e f site).1 0 (Analysis.of e f site).2 f.args).2 := rfl

theorem position_of : (Call.of e f site).position i = f.flags.isMethod.toNat + i := by
  rw [position, analysis_of, length_receiver]

/-- The parts of the arguments stand behind that of the instance. -/
theorem getElem?_parts (e : Env) (site : Site) (hi : i < f.args.length) :
    (Call.of e f site).parts[(Call.of e f site).position i]? =
      (Part.allFrom (Analysis.of e f site).1 0 (Analysis.of e f site).2 f.args).1[i]? := by
  rw [position, analysis_of, parts_of, List.getElem?_append_left,
    List.getElem?_append_right (Nat.le_add_right _ _), Nat.add_sub_cancel_left]
  rw [List.length_append, Part.length_allFrom]
  omega

/-- The part of an argument finds the parameters under their own variables. -/
theorem exists_part (e : Env) (site : Site) (h : f.args[i]? = some a) :
    ∃ l, l.params = (Analysis.paramLocals f).params ∧
      (Call.of e f site).parts[(Call.of e f site).position i]? =
        some (Part.of (Call.of e f site).analysis i a l).1 := by
  obtain ⟨l, hparams, hl⟩ : ∃ l, l.params = (Analysis.of e f site).2.params ∧
      (Part.allFrom (Analysis.of e f site).1 0 (Analysis.of e f site).2 f.args).1[i]? =
        some (Part.of (Analysis.of e f site).1 (0 + i) a l).1 :=
    Part.getElem?_allFrom 0 _ h
  refine ⟨l, hparams.trans (Analysis.params_of e f site), ?_⟩
  rw [getElem?_parts e site (List.getElem?_eq_some_iff.mp h).1, hl, Nat.zero_add, analysis_of]

/-- Every part is that of an instance, of an argument or of an error. -/
theorem mem_parts {p : Part} (h : p ∈ (Call.of e f site).parts) :
    p ∈ Part.receiver (Call.of e f site).analysis ∨
      (∃ i a, f.args[i]? = some a ∧
        (Call.of e f site).parts[(Call.of e f site).position i]? = some p) ∨
        p ∈ Part.error (Call.of e f site).analysis := by
  rw [parts_of, List.mem_append, List.mem_append] at h
  rcases h with (h | h) | h
  · exact .inl h
  · obtain ⟨i, hi⟩ := List.mem_iff_getElem?.mp h
    have hlength := (List.getElem?_eq_some_iff.mp hi).1
    rw [Part.length_allFrom] at hlength
    rw [← getElem?_parts e site hlength] at hi
    exact .inr (.inl ⟨i, _, List.getElem?_eq_getElem hlength, hi⟩)
  · exact .inr (.inr h)

theorem part_of (e : Env) (site : Site) (h : f.args[i]? = some a) :
    ∃ l, (Call.of e f site).parts[(Call.of e f site).position i]? =
      some (Part.of (Call.of e f site).analysis i a l).1 := by
  obtain ⟨l, -, hl⟩ := exists_part e site h
  exact ⟨l, hl⟩

theorem length_slots (e : Env) (f : Function) (site : Site) :
    (Call.of e f site).slots.length = f.nativeArity := by
  rw [slots, parts_of, List.length_map, List.length_append, List.length_append, length_receiver,
    Part.length_allFrom, Function.nativeArity, Part.error, Analysis.of_function]
  cases f.flags.throws <;> simp <;> omega

/-- The slot for an error comes last. -/
theorem last_slot_of (ht : f.flags.throws = true) :
    (Call.of e f site).slots[(Call.of e f site).slots.length - 1]? = some .empty := by
  have herror : Part.error (Analysis.of e f site).1 = [{ slot := .empty }] := by
    rw [Part.error, Analysis.of_function, if_pos ht]
  rw [slots, parts_of, herror, List.map_append, List.length_append]
  exact List.getElem?_concat_length

theorem outCount_of :
    (Call.of e f site).analysis.outCount =
      f.args.countP Argument.usesOutSlot + f.flags.throws.toNat := by
  rw [analysis_of, Analysis.outCount, Analysis.valueSlots_of, Analysis.of_function]

/-- Whatever goes through a slot is done for an argument that has it. -/
theorem outSlot?_of_through {k : Nat} (h : (Call.of e f site).Through i k) :
    (Analysis.of e f site).1.outSlot? i = some k := by
  have hfunction : (Call.of e f site).analysis.function = f := Analysis.of_function e f site
  cases h with
  | value ha hp hplace =>
      rw [hfunction] at ha
      obtain ⟨l, hl⟩ := part_of e site ha
      rw [hl, Option.some.injEq] at hp
      subst hp
      obtain ⟨hslot, heq⟩ := Part.keepsTo_of.place _ hplace
      have hsome := (Analysis.outSlot?_of_eq_some e site).mpr ⟨_, ha, hslot, rfl⟩
      rw [analysis_of, hsome] at heq
      rw [hsome, Analysis.outPlace_inj heq, Option.getD_some]
  | length ha hp hlength hk =>
      rw [hfunction] at ha
      obtain ⟨l, hl⟩ := part_of e site ha
      rw [hl, Option.some.injEq] at hp
      subst hp
      obtain ⟨j, hj, -, hslot⟩ := Part.keepsTo_of.length _ _ hk
      rw [hlength, Option.some.injEq] at hj
      subst hj
      exact hslot
  | resultLength hresult hlength hk =>
      rw [result_of] at hresult
      obtain ⟨c, hc⟩ := SlotReading.length_of_lengthSlot hk
      obtain ⟨j, hj, hplace⟩ := lengthPlace_of_resultOf hresult hc
      rw [analysis_of, hj, Option.some.injEq] at hlength
      rw [← hlength]
      exact (Analysis.slot_of_lengthPlace hplace).2

end

/-- A prepared invoker and the binding of its function agree on the layout of the call. -/
theorem fits_of_prepare {e : Env} {f : Function} {site : Site} {address : Address} {iv : Invoker}
    (h : Invoker.prepare f address = .ok iv) : (Call.of e f site).Fits iv := by
  have hfunction : (Call.of e f site).analysis.function = f := Analysis.of_function e f site
  have hslot : ∀ i k, (Analysis.of e f site).1.outSlot? i = some k →
      (∃ a, f.args[i]? = some a ∧ a.usesOutSlot = true) ∧
        iv.fed[k]? = some ((Call.of e f site).position i) := by
    intro i k hk
    obtain ⟨a, ha, huses, rfl⟩ := (Analysis.outSlot?_of_eq_some e site).mp hk
    rw [position_of]
    exact ⟨⟨a, ha, huses⟩, Invoker.getElem?_fed_of_prepare h ha huses⟩
  constructor
  case slots => rw [length_slots, Invoker.arity_of_prepare h]
  case block => rw [outCount_of, Invoker.outArity_of_prepare h]
  case noBlock =>
    rw [block?, outCount_of, Invoker.outArity_of_prepare h]
    split
    · next hzero => simp only [hzero]
    · next hpos => simp only [hpos, reduceCtorEq]
  case part =>
    intro i a ha
    rw [hfunction] at ha
    exact part_of e site ha
  case slot =>
    intro i a ha huses
    rw [hfunction] at ha
    have hk := (Analysis.outSlot?_of_eq_some e site).mpr ⟨a, ha, huses, rfl⟩
    exact ⟨_, hk, (hslot _ _ hk).2⟩
  case through =>
    intro i k hk
    rw [hfunction]
    exact hslot i k (outSlot?_of_through hk)
  case error =>
    intro ht
    rw [hfunction] at ht
    have harity := Invoker.arity_of_prepare h
    refine ⟨f.args.countP Argument.usesOutSlot, ?_, ?_, ?_, ?_⟩
    · rw [analysis_of, Analysis.errorSlot, Analysis.of_function, if_pos ht, Analysis.valueSlots_of]
    · rw [Invoker.outArity_of_prepare h, ht, Bool.toNat_true]
    · exact Invoker.getElem?_fed_of_throws h ht
    · rw [harity, ← length_slots e f site]
      exact last_slot_of ht

/-- A method that exchanges a number and can fail: three positions, of which two are fed. -/
theorem fits_exchange :
    ∃ f iv, Invoker.prepare f 64 = .ok iv ∧ iv.fed = [1, 2] ∧
      (Call.of (.of { space := { name := "Demo", version := "1.0" } }) f
        { id := 0, index := 0 }).Fits iv := by
  let f : Function :=
    { name := "count", symbol := "demo_count", flags := { isMethod := true, throws := true }
      args := [{ name := "n", direction := .inout, type := .scalar .uint32 }] }
  have h : Invoker.prepare f 64 =
      .ok ⟨"demo_count", 64, [.pointer, .pointer, .pointer], .void, [1, 2]⟩ := rfl
  exact ⟨f, _, h, rfl, fits_of_prepare h⟩

end Call

end Introspect.Binding
