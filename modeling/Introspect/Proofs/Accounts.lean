import Introspect.Proofs.Closures
import Mathlib.Data.List.Flatten

/-!
# What a call takes and gives back

A text that goes into a call is copied into native memory, and a closure is registered under a
handle. Both are given up after the call, unless the callee comes to own them: a copy if the text is
only lent, a registration if the closure is for the call only.

What is taken and what is given up for one argument comes from one part of the call, and `Accounts`
says what the two have to do with each other. Within a whole function they stand far apart, and one
copy is told from another by its variable alone; no two copies share a variable if no name is given
out twice.
-/

namespace Introspect.Naming.Locals

/-- The names given out, latest first. -/
def names (l : Locals) : List String := l.given.map fun p => spelled p.1 p.2

theorem names_alloc (l : Locals) (name : String) :
    (l.alloc name).2.names = (l.alloc name).1 :: l.names := rfl

end Introspect.Naming.Locals

namespace Introspect.Binding

open Naming (Locals)

/-! ## What a part takes and gives up -/

/-- The stages of a generated function, in their order. -/
inductive Stage
  | lookup
  | taking
  | call
  | writeBack
  | givingUp
  | errorReturn
  | results
deriving DecidableEq

namespace Statement

/-- The stage of a call that the statement belongs to. -/
def stage : Statement → Stage
  | .copyText .. | .register .. | .fill .. | .remark _ => .taking
  | .writeBack .. => .writeBack
  | .free _ | .unregister _ => .givingUp

/-- The variable of the copy that the statement makes. -/
def copied? : Statement → Option String
  | .copyText var _ _ => some var
  | _ => none

/-- The variable of the copy that the statement frees. -/
def freed? : Statement → Option String
  | .free var => some var
  | _ => none

/-- The handle of the closure that the statement gives up. -/
def unregistered? : Statement → Option String
  | .unregister handle => some handle
  | _ => none

end Statement

/-- What is done around an input whose text is copied, if it is one. -/
structure Input.Copies (transfer : Transfer) (l l' : Locals) (v : Input) (copy : Option String) :
    Prop where
  names : l'.names = copy.toList ++ l.names
  before : ∃ convert source, v.before = copy.toList.map fun var => .copyText var convert source
  after : v.after = if transfer = .nothing then copy.toList.map .free else []

namespace Input

theorem copies_none {transfer : Transfer} {l : Locals} {v : Input} (hbefore : v.before = [])
    (hafter : v.after = []) : Copies transfer l l v none where
  names := rfl
  before := ⟨"", "", hbefore⟩
  after := hafter.trans (ite_self _).symm

theorem copies_scalar {transfer : Transfer} {l : Locals} {t : NativeType} {host value : String}
    {cell : Cell} : Copies transfer l l (scalar t host cell value) none := by
  unfold scalar
  split
  · exact copies_none rfl rfl
  · exact copies_none rfl rfl

theorem copies_byPointer {transfer : Transfer} {l : Locals} {host var : String}
    {nullable : Bool} : Copies transfer l l (byPointer host var nullable) none := by
  unfold byPointer
  split
  · exact copies_none rfl rfl
  · exact copies_none rfl rfl

theorem copies_named {transfer : Transfer} {l : Locals} {s : Scope} {t : NativeType} {r : Reference}
    {var : String} {nullable : Bool} : Copies transfer l l (named s t r var nullable) none := by
  unfold named
  cases s.kind r with
  | struct | union | object | interface =>
      dsimp only
      split
      · exact copies_byPointer
      · exact copies_none rfl rfl
  | enum | flags => exact copies_scalar
  | callback | unresolved => exact copies_none rfl rfl

theorem copies_text {transfer : Transfer} {l : Locals} {var name : String} {nullable : Bool} :
    Copies transfer l (l.alloc name).2 (text var nullable transfer (l.alloc name).1)
      (some (l.alloc name).1) where
  names := Locals.names_alloc l name
  before := ⟨_, _, rfl⟩
  after := by cases transfer <;> rfl

/-- Only a text is copied, and its copy gets a name of its own. -/
theorem copies_of (s : Scope) (t : NativeType) (var : String) (nullable : Bool)
    (transfer : Transfer) (l : Locals) :
    ∃ copy, Copies transfer l (of s t var nullable transfer l).2
      (of s t var nullable transfer l).1 copy := by
  unfold of
  cases t.tag with
  | utf8 | filename => exact ⟨_, copies_text⟩
  | void =>
      refine ⟨none, ?_⟩
      dsimp only
      split
      · exact copies_none rfl rfl
      · exact copies_none rfl rfl
  | boolean | int8 | uint8 | int16 | uint16 | int32 | uint32 | int64 | uint64 | float | double
  | gtype | unichar => exact ⟨none, copies_scalar⟩
  | array =>
      refine ⟨none, ?_⟩
      dsimp only
      cases ArrayHost.of s t with
      | view | pointer | unmapped => exact copies_none rfl rfl
  | interface =>
      refine ⟨none, ?_⟩
      cases t.reference with
      | some r => exact copies_named
      | none => exact copies_none rfl rfl
  | glist | gslist | ghash | error =>
      dsimp only
      exact ⟨none, copies_byPointer⟩

end Input

theorem Output.names_of (s : Scope) (t : NativeType) (slot : String) (length : ArrayLength)
    (o : OutputOptions) (l : Locals) :
    ∃ new, (of s t slot length o l).2.names = new ++ l.names := by
  unfold of
  cases t.tag with
  | array =>
      dsimp only [array]
      cases ArrayHost.of s t with
      | view type path =>
          cases length with
          | along | zeroTerminated => exact ⟨[_], rfl⟩
          | fixed | unknown => exact ⟨[], rfl⟩
      | pointer => exact ⟨[], rfl⟩
      | unmapped what => exact ⟨[], rfl⟩
  | interface =>
      refine ⟨[], ?_⟩
      cases t.reference <;> rfl
  | _ => exact ⟨[], rfl⟩

/-- What the part of an argument takes before the call and gives up after it: perhaps the copy of a
text, and perhaps the handle of a closure. -/
structure Part.Accounts (a : Argument) (p : Part) (copy handle : Option String) : Prop where
  copied : p.before.filterMap Statement.copied? = copy.toList
  registered : ∀ h closure scope, .register h closure scope ∈ p.before →
    handle = some h ∧ scope = scopeName a.scope
  taking : ∀ st ∈ p.before, st.stage = .taking
  writeBack : ∀ st ∈ p.writeBack, st.stage = .writeBack
  after : p.after = (if a.transfer = .nothing then copy.toList.map .free else []) ++
    if a.scope = .call then handle.toList.map .unregister else []

namespace Part.Accounts

variable {a : Argument} {p : Part} {copy handle : Option String}

theorem freed (hp : p.Accounts a copy handle) :
    p.after.filterMap Statement.freed? = if a.transfer = .nothing then copy.toList else [] := by
  rw [hp.after]
  cases copy <;> cases handle <;> split <;> split <;> rfl

theorem unregistered (hp : p.Accounts a copy handle) :
    p.after.filterMap Statement.unregistered? =
      if a.scope = .call then handle.toList else [] := by
  rw [hp.after]
  cases copy <;> cases handle <;> split <;> split <;> rfl

theorem givingUp (hp : p.Accounts a copy handle) : ∀ st ∈ p.after, st.stage = .givingUp := by
  intro st hst
  rw [hp.after, List.mem_append] at hst
  rcases hst with hst | hst
  · split at hst
    · obtain ⟨_, -, rfl⟩ := List.mem_map.mp hst
      rfl
    · cases hst
  · split at hst
    · obtain ⟨_, -, rfl⟩ := List.mem_map.mp hst
      rfl
    · cases hst

theorem mem_before (hp : p.Accounts a copy handle) {st : Statement} (hst : st ∈ p.statements)
    (hstage : st.stage = .taking) : st ∈ p.before := by
  rcases List.mem_append.mp hst with hst | hst
  · rcases List.mem_append.mp hst with hst | hst
    · exact hst
    · cases hstage.symm.trans (hp.writeBack st hst)
  · cases hstage.symm.trans (hp.givingUp st hst)

end Part.Accounts

theorem Input.Copies.copied {transfer : Transfer} {l l' : Locals} {v : Input}
    {copy : Option String} (hv : v.Copies transfer l l' copy) :
    v.before.filterMap Statement.copied? = copy.toList := by
  obtain ⟨convert, source, hbefore⟩ := hv.before
  rw [hbefore, List.filterMap_map]
  exact List.filterMap_some

theorem Input.Copies.eq_of_mem {transfer : Transfer} {l l' : Locals} {v : Input}
    {copy : Option String} (hv : v.Copies transfer l l' copy) {st : Statement}
    (hst : st ∈ v.before) : ∃ var convert source, st = .copyText var convert source := by
  obtain ⟨convert, source, hbefore⟩ := hv.before
  rw [hbefore] at hst
  obtain ⟨var, -, rfl⟩ := List.mem_map.mp hst
  exact ⟨var, convert, source, rfl⟩

namespace Part

variable {an : Analysis} {i : Nat} {a : Argument}

theorem accounts_none {p : Part} (h : p.statements = []) : Accounts a p none none := by
  obtain ⟨hrest, hafter⟩ := List.append_eq_nil_iff.mp h
  obtain ⟨hbefore, hwriteBack⟩ := List.append_eq_nil_iff.mp hrest
  constructor
  case copied => rw [hbefore]; rfl
  case registered =>
    intro handle closure scope hmem
    rw [hbefore] at hmem
    cases hmem
  case taking => rw [hbefore]; exact List.forall_mem_nil _
  case writeBack => rw [hwriteBack]; exact List.forall_mem_nil _
  case after =>
    rw [hafter, Option.toList_none, List.map_nil, List.map_nil, ite_self, ite_self]
    rfl

theorem accounts_callback (an : Analysis) (i : Nat) (a : Argument) (var : String) :
    Accounts a (callback an i a var) none
      (if Analysis.takesClosure an.env a then an.handles.lookup i else none) := by
  cases hclosure : Analysis.takesClosure an.env a with
  | false => exact accounts_none (statements_callback (.inl hclosure))
  | true =>
      cases hhandle : an.handles.lookup i with
      | none => exact accounts_none (statements_callback (.inr hhandle))
      | some handle =>
          rw [callback_of_handle hclosure hhandle, if_pos rfl]
          constructor
          case copied => rfl
          case registered =>
            intro h closure scope hmem
            cases List.mem_singleton.mp hmem
            exact ⟨rfl, rfl⟩
          case taking => exact List.forall_mem_singleton.mpr rfl
          case writeBack => exact List.forall_mem_nil _
          case after =>
            rw [Option.toList_none, List.map_nil, ite_self, List.nil_append]
            rfl

/-- A part that does what its input does, and fills slots besides, takes what the input takes. -/
theorem accounts_of_copies {p : Part} {v : Input} {more : List Statement} {copy : Option String}
    {l l' : Locals} (hv : v.Copies a.transfer l l' copy) (hbefore : p.before = v.before ++ more)
    (hmore : ∀ st ∈ more, ∃ place value, st = .fill place value)
    (hwriteBack : ∀ st ∈ p.writeBack, st.stage = .writeBack) (hafter : p.after = v.after) :
    Accounts a p copy none := by
  constructor
  case copied =>
    have hquiet : more.filterMap Statement.copied? = [] := by
      refine List.filterMap_eq_nil_iff.mpr fun st hst => ?_
      obtain ⟨place, value, rfl⟩ := hmore st hst
      rfl
    rw [hbefore, List.filterMap_append, hquiet, List.append_nil]
    exact hv.copied
  case registered =>
    intro h closure scope hmem
    rw [hbefore] at hmem
    rcases List.mem_append.mp hmem with hmem | hmem
    · obtain ⟨_, _, _, heq⟩ := hv.eq_of_mem hmem
      cases heq
    · obtain ⟨_, _, heq⟩ := hmore _ hmem
      cases heq
  case taking =>
    intro st hst
    rw [hbefore] at hst
    rcases List.mem_append.mp hst with hst | hst
    · obtain ⟨_, _, _, rfl⟩ := hv.eq_of_mem hst
      rfl
    · obtain ⟨_, _, rfl⟩ := hmore st hst
      rfl
  case writeBack => exact hwriteBack
  case after =>
    rw [Option.toList_none, List.map_nil, ite_self, List.append_nil, hafter]
    exact hv.after

theorem accounts_input {e : Env} {var : String} (l : Locals) :
    ∃ copy, Accounts a (input e a var l).1 copy none ∧
      (input e a var l).2.names = copy.toList ++ l.names := by
  obtain ⟨copy, hv⟩ := Input.copies_of e.scope a.type var a.nullable a.transfer l
  exact ⟨copy, accounts_of_copies hv (List.append_nil _).symm (List.forall_mem_nil _)
    (List.forall_mem_nil _) rfl, hv.names⟩

theorem accounts_inout (an : Analysis) (i : Nat) (a : Argument) (var : String) (l : Locals) :
    ∃ copy new, Accounts a (inout an i a var l).1 copy none ∧
      (inout an i a var l).2.names = new ++ l.names ∧ copy.toList.Sublist new := by
  -- A reference that has no way back takes nothing, though names may be gone for it.
  have hfailed : Accounts a (unexchanged a var) none none := by
    constructor
    case copied => rfl
    case registered =>
      intro h closure scope hmem
      cases List.mem_singleton.mp hmem
    case taking => exact List.forall_mem_singleton.mpr rfl
    case writeBack => exact List.forall_mem_nil _
    case after =>
      rw [Option.toList_none, List.map_nil, List.map_nil, ite_self, ite_self]
      rfl
  rcases inout_cases an i a var l with h | ⟨value, -, h⟩
  · rw [h]
    exact ⟨none, [], hfailed, rfl, List.nil_sublist _⟩
  obtain ⟨copy, hv⟩ := Input.copies_of an.env.scope a.type value false a.transfer l
  obtain ⟨new, ho⟩ := Output.names_of an.env.scope a.type
    (an.outPlace ((an.outSlot? i).getD 0)) .unknown ⟨a.transfer, false, true⟩
    (Input.of an.env.scope a.type value false a.transfer l).2
  have hnames : (exchange an i a value l).2.names = (new ++ copy.toList) ++ l.names := by
    rw [List.append_assoc, ← hv.names]
    exact ho
  rcases h with h | ⟨-, h⟩ <;> rw [h]
  · exact ⟨none, _, hfailed, hnames, List.nil_sublist _⟩
  · refine ⟨copy, _, accounts_of_copies hv rfl ?_ ?_ rfl, hnames, List.sublist_append_right _ _⟩
    · exact List.forall_mem_singleton.mpr ⟨_, _, rfl⟩
    · exact List.forall_mem_singleton.mpr rfl

/-- What a part takes and gives up. A copy gets a name that is given out for it, and a handle is
that of the argument. -/
theorem accounts_of (an : Analysis) (i : Nat) (a : Argument) (l : Locals) :
    ∃ copy new, Accounts a (of an i a l).1 copy (an.registered? i a) ∧
      (of an i a l).2.names = new ++ l.names ∧ copy.toList.Sublist new := by
  have hplain : ∀ (p : Part) (l' : Locals), p.statements = [] →
      (∃ new, l'.names = new ++ l.names) →
        ∃ copy new, Accounts a p copy none ∧ l'.names = new ++ l.names ∧
          copy.toList.Sublist new := by
    rintro p l' hp ⟨new, hnew⟩
    exact ⟨none, new, accounts_none hp, hnew, List.nil_sublist _⟩
  unfold of Analysis.registered?
  cases an.role i a with
  | callback =>
      simp only [decide_true, Bool.true_and]
      exact ⟨none, [], accounts_callback an i a _, rfl, List.nil_sublist _⟩
  | input =>
      obtain ⟨copy, hp, hnames⟩ := accounts_input l
      exact ⟨copy, _, hp, hnames, List.Sublist.refl _⟩
  | inout => exact accounts_inout an i a _ l
  | output => exact hplain _ _ rfl (Output.names_of ..)
  | hidden h => cases h <;> exact hplain _ _ rfl ⟨[], rfl⟩
  | self | userData | release => exact hplain _ _ rfl ⟨[], rfl⟩

end Part

/-- The handle of the argument at `i` that is given up after the call. -/
def Analysis.released? (an : Analysis) (i : Nat) (a : Argument) : Option String :=
  if a.scope = .call then an.registered? i a else none

theorem Analysis.given_of_released {an : Analysis} {i : Nat} {a : Argument} {handle : String}
    (h : an.released? i a = some handle) :
    a.scope = .call ∧ an.handles.lookup i = some handle := by
  unfold released? at h
  split at h
  · next hcall => exact ⟨hcall, (given_of_registered h).2.2⟩
  · cases h

/-! ## Copies of a call -/

theorem Part.copied_allFrom (an : Analysis) (args : List Argument) : ∀ (i : Nat) (l : Locals),
    ∃ new, (allFrom an i l args).2.names = new ++ l.names ∧
      ((allFrom an i l args).1.flatMap fun p =>
        p.before.filterMap Statement.copied?).reverse.Sublist new := by
  induction args with
  | nil => intro i l; exact ⟨[], rfl, List.Sublist.refl _⟩
  | cons a rest ih =>
      intro i l
      obtain ⟨copy, new, hp, hnames, hcopy⟩ := accounts_of an i a l
      obtain ⟨new', hnames', hcopies⟩ := ih (i + 1) (of an i a l).2
      refine ⟨new' ++ new, ?_, ?_⟩
      · rw [allFrom, List.append_assoc, ← hnames]
        exact hnames'
      · have hreverse : copy.toList.reverse = copy.toList := by cases copy <;> rfl
        rw [allFrom, List.flatMap_cons, List.reverse_append, hp.copied, hreverse]
        exact hcopies.append hcopy

/-- The names given out for a function and its arguments. -/
def Call.names (e : Env) (f : Function) (site : Site) : List String :=
  (Part.allFrom (Analysis.of e f site).1 0 (Analysis.of e f site).2 f.args).2.names

namespace Call

section
variable {e : Env} {f : Function} {site : Site}

theorem accounts_at (e : Env) (site : Site) {i : Nat} {a : Argument} (ha : f.args[i]? = some a) :
    ∃ p copy, (Call.of e f site).parts[(Call.of e f site).position i]? = some p ∧
      p.Accounts a copy ((Analysis.of e f site).1.registered? i a) := by
  obtain ⟨l, hl⟩ := part_of e site ha
  obtain ⟨copy, new, hp, -⟩ := Part.accounts_of (Analysis.of e f site).1 i a l
  exact ⟨_, copy, hl, hp⟩

theorem accounts_of_mem {p : Part} (hp : p ∈ (Call.of e f site).parts) :
    p.statements = [] ∨ ∃ i a copy, f.args[i]? = some a ∧
      (Call.of e f site).parts[(Call.of e f site).position i]? = some p ∧
        p.Accounts a copy ((Analysis.of e f site).1.registered? i a) := by
  rcases mem_parts hp with hp | ⟨i, a, ha, hi⟩ | hp
  · left
    rcases Part.eq_of_mem_receiver hp with rfl | ⟨var, rfl⟩ <;> rfl
  · right
    obtain ⟨q, copy, hq, haccounts⟩ := accounts_at e site ha
    rw [hi, Option.some.injEq] at hq
    exact ⟨i, a, copy, ha, hi, hq ▸ haccounts⟩
  · left
    rw [Part.eq_of_mem_error hp]
    rfl

/-- Copies have variables of their own if no name is given out twice. -/
theorem nodup_copied (h : (names e f site).Nodup) :
    ((Call.of e f site).parts.flatMap fun p => p.before.filterMap Statement.copied?).Nodup := by
  obtain ⟨new, hnames, hcopies⟩ := Part.copied_allFrom (Analysis.of e f site).1 f.args 0
    (Analysis.of e f site).2
  have hnew : new.Nodup := by
    rw [names, hnames] at h
    exact h.of_append_left
  have hreceivers : ((Part.receiver (Analysis.of e f site).1).flatMap fun p =>
      p.before.filterMap Statement.copied?) = [] := by
    refine List.flatMap_eq_nil_iff.mpr fun p hp => ?_
    rcases Part.eq_of_mem_receiver hp with rfl | ⟨var, rfl⟩ <;> rfl
  have herrors : ((Part.error (Analysis.of e f site).1).flatMap fun p =>
      p.before.filterMap Statement.copied?) = [] := by
    refine List.flatMap_eq_nil_iff.mpr fun p hp => ?_
    rw [Part.eq_of_mem_error hp]
    rfl
  rw [parts_of, List.flatMap_append, List.flatMap_append, hreceivers, herrors, List.nil_append,
    List.append_nil, ← List.nodup_reverse]
  exact hnew.sublist hcopies

theorem eq_of_nodup_flatMap {α β : Type} {l : List α} {g : α → List β} (h : (l.flatMap g).Nodup)
    {j k : Nat} {p q : α} {x : β} (hj : l[j]? = some p) (hk : l[k]? = some q) (hp : x ∈ g p)
    (hq : x ∈ g q) : j = k := by
  obtain ⟨hjl, rfl⟩ := List.getElem?_eq_some_iff.mp hj
  obtain ⟨hkl, rfl⟩ := List.getElem?_eq_some_iff.mp hk
  have hdisjoint := List.pairwise_iff_getElem.mp (List.nodup_flatMap.mp h).2
  rcases Nat.lt_trichotomy j k with hlt | heq | hlt
  · exact absurd hq (hdisjoint j k hjl hkl hlt hp)
  · exact heq
  · exact absurd hp (hdisjoint k j hkl hjl hlt hq)

theorem accounts_of_statement {p : Part} {st : Statement} (hp : p ∈ (Call.of e f site).parts)
    (hst : st ∈ p.statements) : ∃ i a copy, f.args[i]? = some a ∧
      (Call.of e f site).parts[(Call.of e f site).position i]? = some p ∧
        p.Accounts a copy ((Analysis.of e f site).1.registered? i a) := by
  rcases accounts_of_mem hp with hnil | h
  · rw [hnil] at hst
    cases hst
  · exact h

theorem stage_before {st : Statement} (hst : st ∈ (Call.of e f site).before) :
    st.stage = .taking := by
  obtain ⟨p, hp, hst⟩ := List.mem_flatMap.mp hst
  obtain ⟨i, a, copy, -, -, haccounts⟩ := accounts_of_statement hp
    (List.mem_append_left _ (List.mem_append_left _ hst))
  exact haccounts.taking st hst

theorem stage_writeBack {st : Statement}
    (hst : st ∈ (Call.of e f site).parts.flatMap (·.writeBack)) : st.stage = .writeBack := by
  obtain ⟨p, hp, hst⟩ := List.mem_flatMap.mp hst
  obtain ⟨i, a, copy, -, -, haccounts⟩ := accounts_of_statement hp
    (List.mem_append_left _ (List.mem_append_right _ hst))
  exact haccounts.writeBack st hst

theorem stage_givingUp {st : Statement}
    (hst : st ∈ (Call.of e f site).parts.flatMap (·.after)) : st.stage = .givingUp := by
  obtain ⟨p, hp, hst⟩ := List.mem_flatMap.mp hst
  obtain ⟨i, a, copy, -, -, haccounts⟩ := accounts_of_statement hp
    (List.mem_append_right _ hst)
  exact haccounts.givingUp st hst

theorem count_after {g : Statement → Option String} {mk : String → Statement}
    (hg : ∀ st x, g st = some x ↔ st = mk x) (hmk : ∀ x, (mk x).stage = .givingUp) (x : String) :
    (Call.of e f site).after.count (mk x) =
      ((Call.of e f site).parts.flatMap fun p => p.after.filterMap g).count x := by
  have hwriteBack : mk x ∉ (Call.of e f site).parts.flatMap (·.writeBack) := by
    intro hmem
    have hstage := (hmk x).symm.trans (stage_writeBack hmem)
    cases hstage
  rw [after, List.count_append, List.count_eq_zero.mpr hwriteBack, Nat.zero_add,
    ← List.filterMap_flatMap, List.count_filterMap]
  refine List.countP_congr fun st _ => ?_
  rw [beq_iff_eq, beq_iff_eq, hg]

theorem count_eq_ite {l : List String} (hl : l.Nodup) {x : String} {P : Prop} [Decidable P]
    (h : x ∈ l ↔ P) : l.count x = if P then 1 else 0 := by
  split
  case isTrue hP => exact List.count_eq_one_of_mem hl (h.mpr hP)
  case isFalse hP => exact List.count_eq_zero.mpr fun hmem => hP (h.mp hmem)

/-- A copy is freed once if the text was only lent, and never otherwise. -/
theorem count_free (hnames : (names e f site).Nodup) {i : Nat} {a : Argument} {p : Part}
    (ha : f.args[i]? = some a)
    (hi : (Call.of e f site).parts[(Call.of e f site).position i]? = some p) {var : String}
    (hvar : var ∈ p.before.filterMap Statement.copied?) :
    (Call.of e f site).after.count (.free var) = if a.transfer = .nothing then 1 else 0 := by
  have hcopied := nodup_copied hnames
  obtain ⟨q, copy, hq, haccounts⟩ := accounts_at e site ha
  obtain rfl := Option.some.inj (hq.symm.trans hi)
  have hsub : ((Call.of e f site).parts.flatMap fun p =>
      p.after.filterMap Statement.freed?).Sublist
        ((Call.of e f site).parts.flatMap fun p => p.before.filterMap Statement.copied?) := by
    refine List.Sublist.flatMap_right _ fun p hp => ?_
    rcases accounts_of_mem hp with hnil | ⟨j, b, copy', -, -, hb⟩
    · rw [(List.append_eq_nil_iff.mp hnil).2]
      exact List.nil_sublist _
    · rw [hb.freed, hb.copied]
      split
      · exact List.Sublist.refl _
      · exact List.nil_sublist _
  rw [count_after (g := Statement.freed?) (fun st x => by cases st <;> simp [Statement.freed?])
    fun _ => rfl]
  refine count_eq_ite (hcopied.sublist hsub) ⟨fun hmem => ?_, fun hnothing => ?_⟩
  · obtain ⟨p, hp, hfreed⟩ := List.mem_flatMap.mp hmem
    rcases accounts_of_mem hp with hnil | ⟨j, b, copy', hbj, hj, hb⟩
    · rw [(List.append_eq_nil_iff.mp hnil).2] at hfreed
      cases hfreed
    · rw [hb.freed] at hfreed
      split at hfreed
      case isTrue hlent =>
        -- Were it freed for another argument, that one's copy would have the same name.
        rw [← hb.copied] at hfreed
        have heq := eq_of_nodup_flatMap hcopied hi hj hvar hfreed
        rw [position, position, Nat.add_left_cancel_iff] at heq
        subst heq
        rw [ha, Option.some.injEq] at hbj
        rwa [hbj]
      case isFalse => cases hfreed
  · refine List.mem_flatMap.mpr ⟨q, List.mem_of_getElem? hi, ?_⟩
    rw [haccounts.freed, if_pos hnothing, ← haccounts.copied]
    exact hvar

theorem unregistered_of (e : Env) (f : Function) (site : Site) :
    ((Call.of e f site).parts.flatMap fun p => p.after.filterMap Statement.unregistered?) =
      f.args.zipIdx.filterMap fun (a, i) => (Analysis.of e f site).1.released? i a := by
  rw [List.filterMap_eq_flatMap_toList]
  refine flatMap_parts (g := fun p => p.after.filterMap Statement.unregistered?)
    (k := fun i a => ((Analysis.of e f site).1.released? i a).toList)
    rfl (fun _ => rfl) rfl fun i a l => ?_
  obtain ⟨copy, new, hp, -⟩ := Part.accounts_of (Analysis.of e f site).1 i a l
  rw [hp.unregistered, Analysis.released?, apply_ite Option.toList]
  rfl

theorem count_unregister {i : Nat} {a : Argument} {handle : String} (ha : f.args[i]? = some a)
    (hhandle : (Analysis.of e f site).1.registered? i a = some handle) :
    (Call.of e f site).after.count (.unregister handle) = if a.scope = .call then 1 else 0 := by
  rw [count_after (g := Statement.unregistered?)
    (fun st x => by cases st <;> simp [Statement.unregistered?]) fun _ => rfl, unregistered_of]
  refine count_eq_ite (nodup_filterMap_zipIdx f.args fun i a j b h hi hj => ?_) ?_
  · exact Analysis.handle_inj (Analysis.given_of_released hi).2 (Analysis.given_of_released hj).2
  · rw [List.mem_filterMap]
    constructor
    · rintro ⟨⟨b, j⟩, hmem, hb⟩
      obtain ⟨hcall, hlookup⟩ := Analysis.given_of_released hb
      obtain rfl := Analysis.handle_inj (Analysis.given_of_registered hhandle).2.2 hlookup
      have hbj := List.mem_zipIdx_iff_getElem?.mp hmem
      rw [ha, Option.some.injEq] at hbj
      rwa [hbj]
    · intro hcall
      refine ⟨(a, i), List.mem_zipIdx_iff_getElem?.mpr ha, ?_⟩
      exact (if_pos hcall).trans hhandle

theorem mem_before_of_free {var : String} (h : .free var ∈ (Call.of e f site).after) :
    ∃ convert source, .copyText var convert source ∈ (Call.of e f site).before := by
  rcases List.mem_append.mp h with h | h
  · cases stage_writeBack h
  · obtain ⟨p, hp, hst⟩ := List.mem_flatMap.mp h
    obtain ⟨i, a, copy, -, -, haccounts⟩ := accounts_of_statement hp
      (List.mem_append_right _ hst)
    have hfreed : var ∈ p.after.filterMap Statement.freed? :=
      List.mem_filterMap.mpr ⟨_, hst, rfl⟩
    rw [haccounts.freed] at hfreed
    split at hfreed
    · rw [← haccounts.copied, List.mem_filterMap] at hfreed
      obtain ⟨st, hmem, hcopied⟩ := hfreed
      cases st <;> cases hcopied
      exact ⟨_, _, List.mem_flatMap.mpr ⟨p, hp, hmem⟩⟩
    · cases hfreed

theorem mem_before_of_unregister {handle : String}
    (h : .unregister handle ∈ (Call.of e f site).after) :
    ∃ closure scope, .register handle closure scope ∈ (Call.of e f site).before := by
  rcases List.mem_append.mp h with h | h
  · cases stage_writeBack h
  · obtain ⟨p, hp, hst⟩ := List.mem_flatMap.mp h
    obtain ⟨i, a, copy, ha, -, haccounts⟩ := accounts_of_statement hp
      (List.mem_append_right _ hst)
    have hunregistered : handle ∈ p.after.filterMap Statement.unregistered? :=
      List.mem_filterMap.mpr ⟨_, hst, rfl⟩
    rw [haccounts.unregistered] at hunregistered
    split at hunregistered
    · have hregistered := mem_registered.mpr ⟨i, a, ha, Option.mem_toList.mp hunregistered⟩
      obtain ⟨st, hmem, hst⟩ := List.mem_filterMap.mp hregistered
      cases st <;> cases hst
      exact ⟨_, _, hmem⟩
    · cases hunregistered

end

end Call

end Introspect.Binding
