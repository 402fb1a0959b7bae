import Introspect.Proofs.Balance
import Introspect.Proofs.Spelling

/-!
# The lines of a generated function

Every line of a generated function is woven from words, names of types and markers, when the names
it is made from are words. A strict line takes no marker; it is enough for that to know that no
parameter and no value of the function has the placeholder type, for whatever leaves something
undone shows it in a host type. The proof follows the value: what an input or an output puts into a
line is woven, then what a part puts there, and then every line of the call.
-/

namespace Introspect.Binding

open Naming (Locals)
open Source (Step Plain Word Woven Closed Link closed link)

variable {strict : Prop} {U : String → String → Prop}

/-! ## Fixed texts -/

theorem word_cell (c : Cell) : Word strict c.name := by cases c <;> exact .fixed rfl

theorem woven_number (n : Nat) : Woven strict U (toString n) := .word (.number n)

theorem word_todoType (hopen : ¬ strict) : Word strict todoType where
  plain := by decide
  finished h := absurd h hopen

theorem word_braced {body : String} (h : Word strict body) : Word strict (braced body) :=
  (h.behind rfl).link (link rfl)

/-- A marker may stand behind everything. -/
theorem woven_marked {t what : String} (hopen : ¬ strict) (ht : Woven strict U t)
    (hwhat : Word strict what) : Woven strict U (t ++ todoMark what) := by
  refine ht.append (.mark hopen hwhat.plain) (Source.apart_of_head fun d hd => ?_)
  rw [Source.toList_todoMark] at hd
  obtain rfl : '/' = d := Option.some.inj hd
  decide

theorem word_alloc {name : String} (h : Word strict name) (locals : Locals) :
    Word strict (locals.alloc name).1 := Naming.word_spelled h _

theorem absent {α : Type} {P : α → Prop} : ∀ x, (none : Option α) = some x → P x := fun _ h => by
  cases h

/-- The names that a type refers to are words, and what they are spelled as is woven. -/
def Spells (strict : Prop) (U : String → String → Prop) (s : Scope) (t : NativeType) : Prop :=
  ∀ r ∈ t.references, Word strict r.name ∧ Woven strict U (s.typeName r)

theorem Spells.describe {s : Scope} {t : NativeType} (h : Spells strict U s t) :
    Word strict t.describe := NativeType.word_describe fun r hr => (h r hr).1

theorem Spells.of_reference {s : Scope} {t : NativeType} {r : Reference} (h : Spells strict U s t)
    (hr : t.reference = some r) : Word strict r.name ∧ Woven strict U (s.typeName r) := by
  refine h r ?_
  cases t with
  | plain shape => exact Option.mem_toList.mpr hr
  | of shape e => exact List.mem_append_left _ (Option.mem_toList.mpr hr)

/-! ## Arrays -/

namespace ArrayHost

/-- The types of a view are words, and so is the reason why there is none. -/
def Spelled (strict : Prop) : ArrayHost → Prop
  | .view type path => Word strict type ∧ Word strict path
  | .pointer => True
  | .unmapped what => Word strict what

theorem spelled_native {elem : String} (h : Word strict elem) : (native elem).Spelled strict :=
  ⟨(h.behind rfl).link (link rfl), (h.behind rfl).link (link rfl)⟩

theorem spelled_ofPointers {elem : NativeType} {otherwise : ArrayHost}
    (h : otherwise.Spelled strict) : (ofPointers elem otherwise).Spelled strict := by
  unfold ofPointers
  split
  · exact ⟨.fixed rfl, .fixed rfl⟩
  · exact h

theorem spelled_ofValues {elem : NativeType} {view otherwise : ArrayHost}
    (hview : view.Spelled strict) (h : otherwise.Spelled strict) :
    (ofValues elem view otherwise).Spelled strict := by
  unfold ofValues
  split
  · exact h
  · exact hview

theorem spelled_of {s : Scope} {t : NativeType} (h : Word strict t.describe) :
    (of s t).Spelled strict := by
  have hfixed : ∀ {cs : List Char}, Source.clean cs = true →
      (fixed (String.ofList cs)).Spelled strict := fun hcs => ⟨.fixed hcs, .fixed hcs⟩
  unfold of
  split
  · exact trivial
  · split
    · exact Word.fixed rfl
    · next e _ =>
        dsimp only
        cases e.tag with
        | void | array | glist | gslist | ghash | error => exact spelled_ofPointers h
        | boolean => exact spelled_ofValues (hfixed rfl) h
        | int8 | uint8 | int16 | uint16 | int32 | uint32 | int64 | uint64 | float | double =>
            exact spelled_ofValues (spelled_native (word_cell _)) h
        | gtype => exact spelled_ofValues (spelled_native (.fixed rfl)) h
        | unichar => exact spelled_ofValues (spelled_native (.fixed rfl)) h
        | utf8 | filename => exact hfixed rfl
        | interface =>
            dsimp only
            split
            · exact h
            · exact spelled_ofPointers trivial
            · exact spelled_ofPointers trivial
            · exact spelled_ofPointers trivial
            · exact spelled_ofPointers trivial
            · exact spelled_native (.fixed rfl)
            · exact spelled_native (.fixed rfl)
            · exact hfixed rfl
            · exact h

end ArrayHost

/-! ## Inputs -/

/-- All that an input puts into the lines is woven. -/
structure Input.Spelled (strict : Prop) (U : String → String → Prop) (v : Input) : Prop where
  host : Woven strict U v.host
  slot : Woven strict U v.slot.text
  statements : ∀ st ∈ v.before ++ v.after, Woven strict U st.text

namespace Input

variable {s : Scope} {t : NativeType} {r : Reference} {host var value what : String} {cell : Cell}
  {nullable : Bool}

theorem spelled_simple (hhost : Woven strict U host) (hvalue : Word strict value) :
    Spelled strict U (simple host cell value) where
  host := hhost
  slot := (((closed rfl).add (.word (word_cell cell)) (link rfl)).add (.word hvalue)
    (link rfl)).woven
  statements := List.forall_mem_nil _

theorem spelled_unmapped (hmapped : strict → (unmapped what).host ≠ todoType)
    (hwhat : Word strict what) : Spelled strict U (unmapped what) := by
  have hopen : ¬ strict := fun hstrict => hmapped hstrict rfl
  exact ⟨.word (word_todoType hopen), woven_marked hopen (.word (.fixed rfl)) hwhat,
    List.forall_mem_nil _⟩

theorem spelled_scalar (hmapped : strict → (scalar t host cell value).host ≠ todoType)
    (ht : Word strict t.describe) (hhost : Woven strict U host) (hvalue : Word strict value) :
    Spelled strict U (scalar t host cell value) := by
  unfold scalar at hmapped ⊢
  split at hmapped
  · next hpointer =>
      rw [if_pos hpointer]
      exact spelled_unmapped hmapped ht
  · next hpointer =>
      rw [if_neg hpointer]
      exact spelled_simple hhost hvalue

theorem spelled_text {transfer : Transfer} {copy : String} (hvar : Word strict var)
    (hcopy : Word strict copy) : Spelled strict U (text var nullable transfer copy) := by
  have hconvert : Word strict (if nullable then "gi::c_string_opt" else "gi::c_string") := by
    split
    · exact .fixed rfl
    · exact .fixed rfl
  have hbefore : Woven strict U (Statement.copyText copy
      (if nullable then "gi::c_string_opt" else "gi::c_string") var).text :=
    ((((closed rfl).add (.word hcopy) (link rfl)).add (.word hconvert) (link rfl)).add (.word hvar)
      (link rfl)).woven
  have hfree : Woven strict U (Statement.free copy).text :=
    ((closed rfl).add (Source.closed_braced ((closed rfl).add (.word hcopy) (link rfl)).woven).woven
      (link rfl)).woven
  constructor
  · show Woven strict U (if nullable then "Option<&str>" else "&str")
    split
    · exact .word (.fixed rfl)
    · exact .word (.fixed rfl)
  · exact (((closed rfl).add (.word (word_cell .ptr)) (link rfl)).add (.word hcopy)
      (link rfl)).woven
  · intro st hst
    unfold text at hst
    cases transfer with
    | nothing =>
        rcases List.mem_cons.mp hst with rfl | hst
        · exact hbefore
        · rw [List.mem_singleton.mp hst]
          exact hfree
    | container | everything =>
        rw [List.mem_singleton.mp hst]
        exact hbefore

theorem spelled_byPointer (hhost : Woven strict U host) (hvar : Word strict var) :
    Spelled strict U (byPointer host var nullable) := by
  unfold byPointer
  split
  · exact spelled_simple ((closed rfl).add hhost (link rfl)).woven (hvar.link (link rfl))
  · exact spelled_simple hhost (hvar.link (link rfl))

theorem spelled_named (hmapped : strict → (named s t r var nullable).host ≠ todoType)
    (ht : Word strict t.describe) (hr : Word strict r.name) (htype : Woven strict U (s.typeName r))
    (hvar : Word strict var) : Spelled strict U (named s t r var nullable) := by
  unfold named at hmapped ⊢
  cases hkind : s.kind r with
  | struct | union | object | interface =>
      rw [hkind] at hmapped
      dsimp only at hmapped ⊢
      split at hmapped
      · next hpointer =>
          rw [if_pos hpointer]
          exact spelled_byPointer htype hvar
      · next hpointer =>
          rw [if_neg hpointer]
          exact spelled_unmapped hmapped (hr.link (link rfl))
  | enum | flags =>
      rw [hkind] at hmapped
      exact spelled_scalar hmapped ht htype (hvar.link (link rfl))
  | callback =>
      rw [hkind] at hmapped
      exact spelled_unmapped hmapped (hr.behind rfl)
  | unresolved =>
      rw [hkind] at hmapped
      exact spelled_unmapped hmapped ht

/-- Whatever a native type is passed as is woven into the lines, unless it is strict and has no
mapping. -/
theorem spelled_of {transfer : Transfer} {locals : Locals} (hU : U "*mut c_void" "std::ffi::c_void")
    (hmapped : strict → (of s t var nullable transfer locals).1.host ≠ todoType)
    (ht : Spells strict U s t) (hvar : Word strict var) :
    Spelled strict U (of s t var nullable transfer locals).1 := by
  unfold of at hmapped ⊢
  cases htag : t.tag with
  | void =>
      rw [htag] at hmapped
      dsimp only at hmapped ⊢
      split at hmapped
      · next hpointer =>
          rw [if_pos hpointer]
          exact spelled_simple (woven_pointerType hU) hvar
      · next hpointer =>
          rw [if_neg hpointer]
          exact spelled_unmapped hmapped (.fixed rfl)
  | boolean | gtype | unichar =>
      rw [htag] at hmapped
      exact spelled_scalar hmapped ht.describe (.word (.fixed rfl)) hvar
  | int8 | uint8 | int16 | uint16 | int32 | uint32 | int64 | uint64 | float | double =>
      rw [htag] at hmapped
      exact spelled_scalar hmapped ht.describe (.word (word_cell _)) hvar
  | utf8 | filename => exact spelled_text hvar (word_alloc (hvar.behind rfl) locals)
  | array =>
      rw [htag] at hmapped
      dsimp only at hmapped ⊢
      have hhost := ArrayHost.spelled_of (s := s) ht.describe
      cases harray : ArrayHost.of s t with
      | view type path =>
          rw [harray] at hhost
          exact spelled_simple (.word hhost.1) (hvar.link (link rfl))
      | pointer => exact spelled_simple (woven_pointerType hU) hvar
      | unmapped what =>
          rw [harray] at hhost hmapped
          exact spelled_unmapped hmapped hhost
  | interface =>
      rw [htag] at hmapped
      dsimp only at hmapped ⊢
      cases href : t.reference with
      | some r =>
          rw [href] at hmapped
          obtain ⟨hr, htype⟩ := ht.of_reference href
          exact spelled_named hmapped ht.describe hr htype hvar
      | none =>
          rw [href] at hmapped
          exact spelled_unmapped hmapped (.fixed rfl)
  | glist | gslist | ghash | error =>
      show Spelled strict U (byPointer _ var false)
      exact spelled_byPointer (.word (.fixed rfl)) hvar

end Input

/-! ## Outputs -/

theorem LengthPlace.word_outSlot {block : String} (h : Word strict block) (k : Nat) (c : Cell) :
    Word strict (LengthPlace.outSlot block k c).text :=
  (((h.join (link rfl) (.number k)).join (link rfl) (word_cell c))).link (link rfl)

/-- All that a value puts into the lines is woven. -/
structure Output.Spelled (strict : Prop) (U : String → String → Prop) (o : Output) : Prop where
  host : Woven strict U o.host
  value : Woven strict U o.value.expression

namespace Output

variable {s : Scope} {t : NativeType} {r : Reference} {host slot what : String} {c : Cell}

theorem spelled_unmapped (hmapped : strict → (unmapped what).host ≠ todoType)
    (hwhat : Word strict what) : Spelled strict U (unmapped what) := by
  have hopen : ¬ strict := fun hstrict => hmapped hstrict rfl
  exact ⟨.word (word_todoType hopen), woven_marked hopen (.word (word_todoType hopen)) hwhat⟩

theorem woven_cell (hslot : Word strict slot) :
    Woven strict U (SlotReading.cell slot c).expression :=
  .word ((hslot.join (link rfl) (word_cell c)).link (link rfl))

theorem spelled_scalar (hmapped : strict → (scalar t host slot c).host ≠ todoType)
    (ht : Word strict t.describe) (hhost : Woven strict U host) (hslot : Word strict slot) :
    Spelled strict U (scalar t host slot c) := by
  unfold scalar at hmapped ⊢
  split at hmapped
  · next hpointer =>
      rw [if_pos hpointer]
      exact spelled_unmapped hmapped ht
  · next hpointer =>
      rw [if_neg hpointer]
      exact ⟨hhost, woven_cell hslot⟩

theorem spelled_bits (hmapped : strict → (bits t host slot c).host ≠ todoType)
    (ht : Word strict t.describe) (hhost : Woven strict U host) (hslot : Word strict slot) :
    Spelled strict U (bits t host slot c) := by
  unfold bits at hmapped ⊢
  split at hmapped
  · next hpointer =>
      rw [if_pos hpointer]
      exact spelled_unmapped hmapped ht
  · next hpointer =>
      rw [if_neg hpointer]
      exact ⟨hhost, (((hhost.link (link rfl)).add (.word hslot) (link rfl)).add
        (.word (word_cell c)) (link rfl)).woven⟩

theorem spelled_text {nullable : Bool} {transfer : Transfer} (hslot : Word strict slot) :
    Spelled strict U (text slot nullable transfer) := by
  have howned : Word strict (if transfer.ownsContainer then "take" else "copy") := by
    split
    · exact .fixed rfl
    · exact .fixed rfl
  have hmethod : Word strict ((if transfer.ownsContainer then "take" else "copy") ++
      (if nullable then "_opt" else "")) := by
    cases nullable with
    | true => exact howned.link (link rfl)
    | false => exact String.append_empty.symm ▸ howned
  constructor
  · show Woven strict U (if nullable then "Option<String>" else "String")
    split
    · exact .word (.fixed rfl)
    · exact .word (.fixed rfl)
  · exact ((closed rfl).snoc (Source.closed_braced
      (.word ((hslot.join (link rfl) hmethod).link (link rfl)))).woven)

theorem spelled_byPointer (hhost : Woven strict U host) (hslot : Word strict slot) :
    Spelled strict U (byPointer host slot) :=
  ⟨hhost, (hhost.link (link rfl)).snoc (Source.closed_braced
    (.word ((hslot.behind rfl).link (link rfl)))).woven⟩

theorem spelled_named {declared : Bool}
    (hmapped : strict → (named s t r slot declared).host ≠ todoType) (ht : Word strict t.describe)
    (hr : Word strict r.name) (htype : Woven strict U (s.typeName r)) (hslot : Word strict slot) :
    Spelled strict U (named s t r slot declared) := by
  unfold named at hmapped ⊢
  cases hkind : s.kind r with
  | struct | union | interface =>
      rw [hkind] at hmapped
      dsimp only at hmapped ⊢
      split at hmapped
      · next hpointer =>
          rw [if_pos hpointer]
          exact spelled_byPointer htype hslot
      · next hpointer =>
          rw [if_neg hpointer]
          exact spelled_unmapped hmapped (hr.link (link rfl))
  | object =>
      rw [hkind] at hmapped
      dsimp only at hmapped ⊢
      split at hmapped
      · next hpointer =>
          rw [if_pos hpointer]
          exact spelled_unmapped hmapped (hr.link (link rfl))
      · next hpointer =>
          rw [if_neg hpointer]
          split
          · exact spelled_byPointer htype hslot
          · exact ⟨.word (.fixed rfl), (closed rfl).snoc (Source.closed_braced
              (((closed rfl).add (.word hslot) (link rfl)).add htype (link rfl)).woven).woven⟩
  | enum | flags =>
      rw [hkind] at hmapped
      exact spelled_bits hmapped ht htype hslot
  | callback | unresolved =>
      rw [hkind] at hmapped
      exact spelled_unmapped hmapped ht

theorem woven_sized {path var set : String} (hpath : Word strict path) (hslot : Word strict slot)
    (hvar : Word strict var) (hset : Word strict set) :
    Woven strict U (SlotReading.sized path slot var set) :=
  (Source.closed_braced ((((((closed rfl).add (.word hvar) (link rfl)).add (.word hpath)
    (link rfl)).add (.word hslot) (link rfl)).add (.word hset) (link rfl)).snoc
      (.word hvar))).woven

theorem woven_array {path var : String} {length : ArrayLength} (hpath : Word strict path)
    (hslot : Word strict slot) (hvar : Word strict var)
    (hlength : ∀ place, length = .along place → Word strict place.text) :
    Woven strict U (SlotReading.array path slot var length).expression := by
  cases length with
  | along place =>
      exact woven_sized hpath hslot hvar
        ((hvar.join (link rfl) (hlength place rfl)).link (link rfl))
  | zeroTerminated =>
      exact woven_sized hpath hslot hvar
        (((word_braced (hvar.link (link rfl))).behind rfl).link (link rfl))
  | fixed n =>
      exact .word (((hpath.join (link rfl) hslot).join (link rfl) (.number n)).link (link rfl))
  | unknown => exact .word ((hpath.join (link rfl) hslot).link (link rfl))

theorem spelled_array {length : ArrayLength} {locals : Locals}
    (hU : U "*mut c_void" "std::ffi::c_void")
    (hmapped : strict → (array s t slot length locals).1.host ≠ todoType)
    (ht : Word strict t.describe)
    (hslot : Word strict slot) (hlength : ∀ place, length = .along place → Word strict place.text) :
    Spelled strict U (array s t slot length locals).1 := by
  have hhost := ArrayHost.spelled_of (s := s) ht
  unfold array at hmapped ⊢
  cases harray : ArrayHost.of s t with
  | view type path =>
      rw [harray] at hhost
      have hvar : Word strict (locals.alloc "arr").1 := word_alloc (.fixed rfl) locals
      cases length with
      | along place => exact ⟨.word hhost.1, woven_array hhost.2 hslot hvar hlength⟩
      | zeroTerminated => exact ⟨.word hhost.1, woven_array hhost.2 hslot hvar hlength⟩
      | fixed n => exact ⟨.word hhost.1, woven_array hhost.2 hslot (.fixed rfl) hlength⟩
      | unknown => exact ⟨.word hhost.1, woven_array hhost.2 hslot (.fixed rfl) hlength⟩
  | pointer => exact ⟨woven_pointerType hU, woven_cell hslot⟩
  | unmapped what =>
      rw [harray] at hhost hmapped
      exact spelled_unmapped hmapped hhost

/-- Whatever a native type is read as is woven into the lines, unless it is strict and has no
mapping. -/
theorem spelled_of {length : ArrayLength} {options : OutputOptions} {locals : Locals}
    (hU : U "*mut c_void" "std::ffi::c_void")
    (hmapped : strict → (of s t slot length options locals).1.host ≠ todoType)
    (ht : Spells strict U s t) (hslot : Word strict slot)
    (hlength : ∀ place, length = .along place → Word strict place.text) :
    Spelled strict U (of s t slot length options locals).1 := by
  unfold of at hmapped ⊢
  cases htag : t.tag with
  | void =>
      rw [htag] at hmapped
      dsimp only at hmapped ⊢
      split at hmapped
      · next hpointer =>
          rw [if_pos hpointer]
          exact ⟨woven_pointerType hU, woven_cell hslot⟩
      · next hpointer =>
          rw [if_neg hpointer]
          exact spelled_unmapped hmapped (.fixed rfl)
  | boolean | gtype | unichar =>
      rw [htag] at hmapped
      exact spelled_scalar hmapped ht.describe (.word (.fixed rfl)) hslot
  | int8 | uint8 | int16 | uint16 | int32 | uint32 | int64 | uint64 | float | double =>
      rw [htag] at hmapped
      exact spelled_scalar hmapped ht.describe (.word (word_cell _)) hslot
  | utf8 | filename => exact spelled_text hslot
  | array =>
      rw [htag] at hmapped
      exact spelled_array hU hmapped ht.describe hslot hlength
  | interface =>
      rw [htag] at hmapped
      dsimp only at hmapped ⊢
      cases href : t.reference with
      | some r =>
          rw [href] at hmapped
          obtain ⟨hr, htype⟩ := ht.of_reference href
          exact spelled_named hmapped ht.describe hr htype hslot
      | none =>
          rw [href] at hmapped
          exact spelled_unmapped hmapped (.fixed rfl)
  | glist | gslist | ghash | error =>
      show Spelled strict U (byPointer _ slot)
      exact spelled_byPointer (.word (.fixed rfl)) hslot

end Output

/-! ## Variables -/

/-- The variables that a call is laid out with are words. -/
structure Analysis.Spelled (strict : Prop) (an : Analysis) : Prop where
  invokerVar : Word strict an.invokerVar
  outVar : Word strict an.outVar
  argsVar : Word strict an.argsVar
  resultVar : Word strict an.resultVar
  handles : ∀ p ∈ an.handles, Word strict p.2
  receiver : ∀ var, an.receiver = .pointer var → Word strict var

namespace Analysis

theorem word_handles (e : Env) (f : Function) (site : Site) :
    ∀ p ∈ (of e f site).1.handles, Word strict p.2 := by
  unfold of
  refine List.foldlRecOn (motive := fun st : Analysis × Locals => ∀ p ∈ st.1.handles,
    Word strict p.2)
    _ _ (List.forall_mem_nil _) ?_
  intro st hst arg _
  show ∀ p ∈ (pair f st arg.1 arg.2).1.handles, Word strict p.2
  rw [pair_eq_match]
  cases dataArg? f st.1 arg.1 arg.2 with
  | none => exact hst
  | some j => exact List.forall_mem_cons.mpr ⟨word_alloc (.fixed rfl) st.2, hst⟩

theorem spelled_of (e : Env) (f : Function) (site : Site) : (of e f site).1.Spelled strict := by
  have hhandles := @word_handles strict e f site
  have hreceiver := of_receiver e f site
  obtain ⟨d, r, h, heq⟩ := of_eq e f site
  refine ⟨?_, ?_, ?_, ?_, hhandles, fun var hvar => ?_⟩
  · rw [heq]
    exact word_alloc (.fixed rfl) _
  · rw [heq]
    exact word_alloc (.fixed rfl) _
  · rw [heq]
    exact word_alloc (.fixed rfl) _
  · rw [heq]
    exact word_alloc (.fixed rfl) _
  · rw [hreceiver] at hvar
    unfold receiverOf at hvar
    split at hvar
    · cases hvar
      exact word_alloc (.fixed rfl) _
    · split at hvar <;> cases hvar

theorem word_paramLocals {f : Function} (h : ∀ a ∈ f.args, Word strict a.name) :
    ∀ p ∈ (paramLocals f).params, Word strict p.2 := by
  unfold paramLocals
  refine List.foldlRecOn (motive := fun l : Locals => ∀ p ∈ l.params, Word strict p.2) _ _
    (List.forall_mem_nil _) ?_
  intro l hl arg harg
  exact List.forall_mem_cons.mpr
    ⟨word_alloc (h _ (List.fst_mem_of_mem_zipIdx harg)) l, hl⟩

theorem word_outPlace {an : Analysis} (h : an.Spelled strict) (k : Nat) :
    Word strict (an.outPlace k) :=
  (h.outVar.join (link rfl) (.number k)).link (link rfl)

theorem word_arrayLength {an : Analysis} {locals : Locals} {t : NativeType} {place : LengthPlace}
    (h : an.Spelled strict) (hlocals : ∀ p ∈ locals.params, Word strict p.2)
    (hplace : an.arrayLength locals t = .along place) : Word strict place.text := by
  obtain ⟨n, -, hn⟩ := lengthPlace_of_arrayLength hplace
  obtain ⟨a, cell, -, -, ⟨k, -, rfl⟩ | ⟨-, var, hvar, rfl⟩⟩ := lengthPlace_cases hn
  · exact LengthPlace.word_outSlot h.outVar k cell
  · exact hlocals (n, var) (mem_of_lookup hvar)

theorem word_handle {an : Analysis} {i : Nat} {a : Argument} {handle : String}
    (h : an.Spelled strict) (hrole : an.role i a = .userData handle) : Word strict handle := by
  unfold role at hrole
  split at hrole
  · cases hrole
  split at hrole
  · cases hrole
  split at hrole
  · next callback _ =>
      cases hrole
      cases hhandle : an.handles.lookup callback with
      | none => exact .fixed rfl
      | some handle => exact h.handles (callback, handle) (mem_of_lookup hhandle)
  · repeat' split at hrole
    all_goals cases hrole

end Analysis

/-! ## Parts -/

namespace Part

/-- The host types of a part: that of its parameter and that of the value it leaves. -/
def hosts (p : Part) : List String :=
  (p.param.map (·.host)).toList ++ (p.result.map fun (_, o) => o.host).toList

/-- All that a part puts into the lines is woven. -/
structure Spelled (strict : Prop) (U : String → String → Prop) (p : Part) : Prop where
  slot : Woven strict U p.slot.text
  param : ∀ q, p.param = some q → Word strict q.var ∧ Woven strict U q.host
  statements : ∀ st ∈ p.statements, Woven strict U st.text
  result : ∀ r, p.result = some r → Word strict r.1 ∧ r.2.Spelled strict U

section
variable {slot : Slot} {var : String}

theorem spelled_bare (h : Woven strict U slot.text) : Spelled strict U { slot } where
  slot := h
  param := absent
  statements := List.forall_mem_nil _
  result := absent

theorem spelled_todo (hopen : ¬ strict) (hslot : Woven strict U slot.text)
    (hvar : Word strict var) :
    Spelled strict U (todo var slot) where
  slot := hslot
  param := by
    intro q hq
    cases hq
    exact ⟨hvar, .word (word_todoType hopen)⟩
  statements := List.forall_mem_nil _
  result := absent

end

theorem woven_empty : Woven strict U Slot.empty.text := .word (.fixed rfl)

theorem woven_trampoline {name : String} (h : Word strict name) :
    Woven strict U (Slot.trampoline name).text :=
  ((closed rfl).add (.word (Naming.word_trampoline h.plain)) (link rfl)).woven

section
variable {s : Scope} {an : Analysis} {i : Nat} {a : Argument} {var : String} {locals : Locals}

theorem spelled_input {e : Env} (hU : U "*mut c_void" "std::ffi::c_void")
    (htype : Spells strict U e.scope a.type) (hvar : Word strict var)
    (hmapped : strict → todoType ∉ (input e a var locals).1.hosts) :
    Spelled strict U (input e a var locals).1 := by
  have hinput : Input.Spelled strict U
      (Input.of e.scope a.type var a.nullable a.transfer locals).1 :=
    Input.spelled_of hU (fun hstrict heq => hmapped hstrict (by simp [input, hosts, heq]))
      htype hvar
  refine ⟨hinput.slot, ?_, ?_, absent⟩
  · intro q hq
    cases hq
    exact ⟨hvar, hinput.host⟩
  · intro st hst
    simp only [input, statements, List.append_nil] at hst
    exact hinput.statements st hst

theorem spelled_output (hU : U "*mut c_void" "std::ffi::c_void") (han : an.Spelled strict)
    (htype : Spells strict U an.env.scope a.type) (hvar : Word strict var)
    (hlocals : ∀ p ∈ locals.params, Word strict p.2)
    (hmapped : strict → todoType ∉ (output an i a var locals).1.hosts) :
    Spelled strict U (output an i a var locals).1 := by
  refine ⟨woven_empty, absent, List.forall_mem_nil _, ?_⟩
  intro r hr
  cases hr
  refine ⟨hvar, Output.spelled_of hU (fun hstrict heq => hmapped hstrict ?_) htype
    (Analysis.word_outPlace han _) fun place => Analysis.word_arrayLength han hlocals⟩
  rw [← heq]
  exact List.mem_append_right _ List.mem_cons_self

theorem word_scopeName (scope : CallbackScope) : Word strict (scopeName scope) := by
  cases scope <;> exact .fixed rfl

theorem spelled_closure {handle : String} (hvar : Word strict var) (hhandle : Word strict handle)
    (hname : Word strict (a.type.referenceName.getD "")) :
    Spelled strict U (closure a var handle) := by
  refine ⟨woven_trampoline hname, ?_, ?_, absent⟩
  · intro q hq
    cases hq
    exact ⟨hvar, .word hname⟩
  · have hregister : Woven strict U (Statement.register handle var (scopeName a.scope)).text :=
      ((((closed rfl).add (.word hhandle) (link rfl)).add (.word hvar) (link rfl)).add
        (.word (word_scopeName a.scope)) (link rfl)).woven
    have hunregister : Woven strict U (Statement.unregister handle).text :=
      ((closed rfl).add (.word hhandle) (link rfl)).woven
    intro st hst
    simp only [closure, statements, List.append_nil, List.singleton_append, List.mem_cons] at hst
    rcases hst with rfl | hst
    · exact hregister
    · split at hst
      · rw [List.mem_singleton.mp hst]
        exact hunregister
      · cases hst

theorem spelled_callback (han : an.Spelled strict) (htype : Spells strict U an.env.scope a.type)
    (hvar : Word strict var) (hmapped : strict → todoType ∉ (callback an i a var).hosts) :
    Spelled strict U (callback an i a var) := by
  have hname : Word strict (a.type.referenceName.getD "") := by
    unfold NativeType.referenceName
    cases href : a.type.reference with
    | none => exact .fixed rfl
    | some r => exact (htype.of_reference href).1
  have htodo : ∀ what, Word strict what →
      (strict → todoType ∉ (todo var (.value (.unmapped what))).hosts) →
        Spelled strict U (todo var (.value (.unmapped what))) := by
    intro what hwhat hmapped
    have hopen : ¬ strict := fun hstrict => hmapped hstrict List.mem_cons_self
    exact spelled_todo hopen (woven_marked hopen (.word (.fixed rfl)) hwhat) hvar
  rcases callback_cases an i a var with
    ⟨handle, -, hhandle, h⟩ | h | ⟨reason, hreason, h⟩ <;> rw [h] at hmapped ⊢
  · exact spelled_closure hvar (han.handles (i, handle) (mem_of_lookup hhandle)) hname
  · exact spelled_bare (woven_trampoline hname)
  · refine htodo _ ?_ hmapped
    simp only [List.mem_cons, List.not_mem_nil, or_false] at hreason
    rcases hreason with rfl | rfl <;> exact hname.behind rfl

theorem word_behind {tag : Tag} {value : String} (hvar : Word strict var)
    (h : behind? var tag = some value) : Word strict value := by
  cases tag with
  | utf8 | filename | interface =>
      cases h
      exact hvar
  | array | glist | gslist | ghash | error => cases h
  | _ =>
      cases h
      exact hvar.behind rfl

theorem word_remark {text : String} (hopen : ¬ strict) (hvar : Word strict var)
    (htext : Word strict text) :
    Word strict (Statement.remark ("TODO inout " ++ var ++ " " ++ text)).text := by
  have hfront : Word strict ("TODO inout " ++ var) :=
    hvar.behindOpen hopen (by decide) (by simp [Source.loose])
  exact (hfront.join (link rfl) htext).behind rfl

theorem spelled_exchanged {place : String} {v : Input} {o : Output} (hvar : Word strict var)
    (hplace : Word strict place) (hinput : v.Spelled strict U) (houtput : o.Spelled strict U) :
    Spelled strict U (exchanged place var v o) := by
  refine ⟨woven_empty, ?_, ?_, absent⟩
  · intro q hq
    cases hq
    exact ⟨hvar, (closed rfl).snoc houtput.host⟩
  · have hfill : Woven strict U (Statement.fill place v.slot).text :=
      (((Woven.word hplace).link (link rfl)).add hinput.slot (link rfl)).woven
    have hback : Woven strict U (Statement.writeBack var o.value).text :=
      (((closed rfl).add (.word hvar) (link rfl)).add houtput.value (link rfl)).woven
    intro st hst
    simp only [exchanged, statements, List.mem_append, List.mem_singleton] at hst
    rcases hst with ((hst | rfl) | rfl) | hst
    · exact hinput.statements st (List.mem_append_left _ hst)
    · exact hfill
    · exact hback
    · exact hinput.statements st (List.mem_append_right _ hst)

theorem spelled_inout (hU : U "*mut c_void" "std::ffi::c_void") (han : an.Spelled strict)
    (htype : Spells strict U an.env.scope a.type) (hvar : Word strict var)
    (hmapped : strict → todoType ∉ (inout an i a var locals).1.hosts) :
    Spelled strict U (inout an i a var locals).1 := by
  have hplace := Analysis.word_outPlace han ((an.outSlot? i).getD 0)
  have hfailed : (strict → todoType ∉ (unexchanged a var).hosts) →
      Spelled strict U (unexchanged a var) := by
    intro hmapped
    have hopen : ¬ strict := fun hstrict => hmapped hstrict List.mem_cons_self
    refine ⟨woven_empty, ?_, ?_, absent⟩
    · intro q hq
      cases hq
      exact ⟨hvar, .word (word_todoType hopen)⟩
    · intro st hst
      simp only [unexchanged, statements, List.append_nil, List.mem_singleton] at hst
      rw [hst]
      exact .word (word_remark hopen hvar htype.describe)
  rcases inout_cases an i a var locals with
    h | ⟨value, hbehind, h | ⟨hex, h⟩⟩ <;> rw [h] at hmapped ⊢
  · exact hfailed hmapped
  · exact hfailed hmapped
  · rw [exchangeable, Bool.and_eq_true, Bool.and_eq_true, decide_eq_true_eq, Output.isTodo,
      Bool.not_eq_true', decide_eq_false_iff_not] at hex
    obtain ⟨⟨hv, ho⟩, -⟩ := hex
    have hinput := Input.spelled_of hU (fun _ => hv) htype (word_behind hvar hbehind)
    have houtput := Output.spelled_of hU (fun _ => ho) htype hplace fun _ h => by cases h
    exact spelled_exchanged hvar hplace hinput houtput

/-- The part of an argument is woven into the lines, unless they are strict and it shows the
placeholder type. -/
theorem spelled_of (hU : U "*mut c_void" "std::ffi::c_void") (han : an.Spelled strict)
    (hname : Word strict a.name) (htype : Spells strict U an.env.scope a.type)
    (hlocals : ∀ p ∈ locals.params, Word strict p.2)
    (hmapped : strict → todoType ∉ (of an i a locals).1.hosts) :
    Spelled strict U (of an i a locals).1 := by
  have hparam : ∀ j name, Word strict name → Word strict ((locals.param? j).getD name) := by
    intro j name hname
    cases hj : locals.param? j with
    | none => exact hname
    | some var => exact hlocals (j, var) (mem_of_lookup hj)
  have hvar := hparam i a.name hname
  unfold of at hmapped ⊢
  cases hrole : an.role i a with
  | self => exact spelled_bare (.word (.fixed rfl))
  | hidden h =>
      cases h with
      | fromArray array =>
          have harray := hparam array "" (.fixed rfl)
          exact spelled_bare (((((closed rfl).add (.word (word_cell _)) (link rfl)).add
            (.word harray) (link rfl)).add (.word (word_cell _)) (link rfl)).woven)
      | outSlot => exact spelled_bare woven_empty
  | userData handle =>
      exact spelled_bare ((closed rfl).add (.word (Analysis.word_handle han hrole))
        (link rfl)).woven
  | release => exact spelled_bare (.word (.fixed rfl))
  | callback =>
      rw [hrole] at hmapped
      exact spelled_callback han htype hvar hmapped
  | input =>
      rw [hrole] at hmapped
      exact spelled_input hU htype hvar hmapped
  | output =>
      rw [hrole] at hmapped
      exact spelled_output hU han htype hvar hlocals hmapped
  | inout =>
      rw [hrole] at hmapped
      exact spelled_inout hU han htype hvar hmapped

theorem spelled_receiver (hU : U "*mut c_void" "std::ffi::c_void") (han : an.Spelled strict) :
    ∀ p ∈ receiver an, p.Spelled strict U := by
  unfold receiver
  split
  · exact List.forall_mem_nil _
  · split
    · exact List.forall_mem_nil _
    · exact List.forall_mem_singleton.mpr (spelled_bare (.word (.fixed rfl)))
  · next var hvar =>
      have hvar' := han.receiver var hvar
      refine List.forall_mem_singleton.mpr ⟨?_, ?_, List.forall_mem_nil _, absent⟩
      · exact (Input.spelled_simple (woven_pointerType hU) hvar').slot
      · intro q hq
        cases hq
        exact ⟨hvar', woven_pointerType hU⟩

end

end Part

/-! ## Calls -/

/-- The names that a function is generated from are words, and its types are spelled with woven
names. -/
structure Named (strict : Prop) (U : String → String → Prop) (e : Env) (f : Function)
    (site : Site) :
    Prop where
  name : Word strict f.name
  symbol : Word strict f.symbol
  args : ∀ a ∈ f.args, Word strict a.name ∧ Spells strict U e.scope a.type
  returns : Spells strict U e.scope f.returns
  container : ∀ p, site.container = some p → Word strict p.2.name

namespace Call

/-- The host types of the parameters and of the values. -/
def hosts (c : Call) : List String := c.params.map (·.host) ++ c.results.map (·.2.host)

theorem hosts_part_subset {c : Call} {p : Part} (hp : p ∈ c.parts) : p.hosts ⊆ c.hosts := by
  intro host hhost
  unfold Part.hosts at hhost
  rw [List.mem_append, Option.mem_toList, Option.mem_toList, Option.map_eq_some_iff,
    Option.map_eq_some_iff] at hhost
  unfold hosts
  rw [List.mem_append, List.mem_map, List.mem_map]
  rcases hhost with ⟨q, hq, heq⟩ | ⟨r, hr, heq⟩
  · exact .inl ⟨q, List.mem_filterMap.mpr ⟨p, hp, hq⟩, heq⟩
  · exact .inr ⟨r, List.mem_append_right _ (List.mem_filterMap.mpr ⟨p, hp, hr⟩), heq⟩

/-- All that a call is put together from is woven. -/
structure Spelled (strict : Prop) (U : String → String → Prop) (c : Call) : Prop where
  name : Word strict c.analysis.function.name
  symbol : Word strict c.analysis.function.symbol
  args : ∀ a ∈ c.analysis.function.args, Word strict a.name
  container : ∀ p, c.analysis.site.container = some p → Word strict p.2.name
  analysis : c.analysis.Spelled strict
  parts : ∀ p ∈ c.parts, p.Spelled strict U
  results : ∀ r ∈ c.results, Word strict r.1 ∧ r.2.Spelled strict U

section
variable {e : Env} {f : Function} {site : Site}

theorem spelled_part (hU : U "*mut c_void" "std::ffi::c_void") (h : Named strict U e f site)
    (hmapped : strict → todoType ∉ (Call.of e f site).hosts) :
    ∀ p ∈ (Call.of e f site).parts, p.Spelled strict U := by
  have han : (Call.of e f site).analysis.Spelled strict := Analysis.spelled_of e f site
  intro p hp
  have hmapped' : strict → todoType ∉ p.hosts := fun hstrict hmem =>
    hmapped hstrict (hosts_part_subset hp hmem)
  rcases mem_parts hp with hp | ⟨i, a, ha, hi⟩ | hp
  · exact Part.spelled_receiver hU han p hp
  · obtain ⟨l, hparams, hl⟩ := exists_part e site ha
    obtain rfl := Option.some.inj (hl.symm.trans hi)
    obtain ⟨hname, htype⟩ := h.args a (List.mem_of_getElem? ha)
    refine Part.spelled_of hU han hname ?_ (fun p hp => ?_) hmapped'
    · rwa [analysis_of, Analysis.of_env]
    · rw [hparams] at hp
      exact Analysis.word_paramLocals (fun a ha => (h.args a ha).1) p hp
  · rw [Part.eq_of_mem_error hp]
    exact Part.spelled_bare Part.woven_empty

theorem spelled_result (hU : U "*mut c_void" "std::ffi::c_void") (h : Named strict U e f site)
    (hmapped : strict → todoType ∉ (Call.of e f site).hosts) {r : String × Output}
    (hr : (Call.of e f site).result = some r) : Word strict r.1 ∧ r.2.Spelled strict U := by
  have han : (Call.of e f site).analysis.Spelled strict := Analysis.spelled_of e f site
  have hmapped' : strict → r.2.host ≠ todoType := fun hstrict heq => by
    refine hmapped hstrict (List.mem_append_right _ (List.mem_map.mpr ⟨r, ?_, heq⟩))
    exact List.mem_append_left _ (Option.mem_toList.mpr hr)
  rw [result_of, resultOf] at hr
  dsimp only at hr
  split at hr
  · cases hr
  cases hr
  refine ⟨word_alloc (.fixed rfl) _, ?_⟩
  dsimp only at hmapped' ⊢
  split
  · next c hc =>
      have hname : Word strict c.name := by
        unfold Analysis.constructed? at hc
        split at hc
        · rw [Analysis.of_site] at hc
          obtain ⟨p, hp, rfl⟩ := Option.map_eq_some_iff.mp hc
          exact h.container p hp
        · cases hc
      exact Output.spelled_byPointer (.word hname) han.resultVar
  · next hc =>
      rw [hc] at hmapped'
      have hlocals : ∀ p ∈
          (Part.allFrom (Analysis.of e f site).1 0 (Analysis.of e f site).2 f.args).2.params,
          Word strict p.2 := by
        rw [Part.params_allFrom, Analysis.params_of]
        exact Analysis.word_paramLocals fun a ha => (h.args a ha).1
      refine Output.spelled_of hU hmapped' ?_ han.resultVar fun place =>
        Analysis.word_arrayLength han hlocals
      rw [Analysis.of_env, Analysis.of_function]
      exact h.returns

/-- What a call is put together from is woven, unless it is strict and shows the placeholder
type. -/
theorem spelled_of (hU : U "*mut c_void" "std::ffi::c_void") (h : Named strict U e f site)
    (hmapped : strict → todoType ∉ (Call.of e f site).hosts) :
    (Call.of e f site).Spelled strict U where
  name := by
    rw [analysis_of, Analysis.of_function]
    exact h.name
  symbol := by
    rw [analysis_of, Analysis.of_function]
    exact h.symbol
  args := by
    rw [analysis_of, Analysis.of_function]
    exact fun a ha => (h.args a ha).1
  container := by
    rw [analysis_of, Analysis.of_site]
    exact h.container
  analysis := Analysis.spelled_of e f site
  parts := spelled_part hU h hmapped
  results := by
    intro r hr
    rcases List.mem_append.mp hr with hr | hr
    · exact spelled_result hU h hmapped (Option.mem_toList.mp hr)
    · obtain ⟨p, hp, hresult⟩ := List.mem_filterMap.mp hr
      exact (spelled_part hU h hmapped p hp).result r hresult

end

/-! ## Lines -/

section
variable {c : Call}

theorem woven_oneOrTuple {ts : List String} (h : ∀ t ∈ ts, Woven strict U t) :
    Woven strict U (oneOrTuple ts) := by
  unfold oneOrTuple
  split
  · exact h _ List.mem_cons_self
  · exact (Source.closed_tuple h).woven

theorem woven_fixed {cs : List Char} (h : Source.clean cs = true) :
    Woven strict U (String.ofList cs) := .word (.fixed h)

theorem woven_argumentNote {a : Argument} {note : String} (ha : Word strict a.name)
    (h : argumentNote a = some note) : Woven strict U note := by
  have hnotes : ∀ n ∈ (if a.direction = .in then [] else [a.direction.name]) ++
      (if a.transfer = .nothing then [] else ["transfer " ++ a.transfer.name]),
        Woven strict U n := by
    refine List.forall_mem_append.mpr ⟨?_, ?_⟩
    · split
      · exact List.forall_mem_nil _
      · cases a.direction <;> exact List.forall_mem_singleton.mpr (woven_fixed rfl)
    · split
      · exact List.forall_mem_nil _
      · refine List.forall_mem_singleton.mpr (.word (Word.behind ?_ rfl))
        cases a.transfer <;> exact .fixed rfl
  unfold argumentNote at h
  rw [Option.ite_none_left_eq_some] at h
  rw [← Option.some.inj h.2]
  exact ((closed rfl).add (.word ha) (link rfl)).snoc (Source.woven_intercalate (link rfl) hnotes)

theorem woven_remarks (h : c.Spelled strict U) : ∀ st ∈ c.remarks, Woven strict U st.text := by
  unfold remarks
  refine List.forall_mem_append.mpr ⟨List.forall_mem_append.mpr ⟨?_, ?_⟩, ?_⟩
  · exact List.forall_mem_singleton.mpr ((closed rfl).add (.word h.symbol) (link rfl)).woven
  · split
    · exact List.forall_mem_nil _
    · refine List.forall_mem_cons.mpr
        ⟨woven_fixed rfl, List.forall_mem_map.mpr fun note hnote => ?_⟩
      obtain ⟨a, ha, hnote⟩ := List.mem_filterMap.mp hnote
      exact (closed rfl).snoc (woven_argumentNote (h.args a ha) hnote)
  · split
    · exact List.forall_mem_singleton.mpr (woven_fixed rfl)
    · exact List.forall_mem_nil _

theorem word_hostName {f : Function} (h : Word strict f.name) (inContainer : Bool) :
    Word strict (hostName f inContainer) := by
  refine Naming.word_itemName ?_
  split
  · exact h.link (link rfl)
  · exact h

theorem woven_hostResult (h : c.Spelled strict U) : Woven strict U c.hostResult :=
  woven_oneOrTuple (List.forall_mem_map.mpr fun r hr => (h.results r hr).2.host)

/-- The parameters in the signature. -/
def paramTexts (c : Call) : List String :=
  (match c.analysis.receiver with
    | .self => ["&self"]
    | _ => []) ++ c.params.map fun p => p.var ++ ": " ++ p.host

/-- The result type in the signature. -/
def returnText (c : Call) : String :=
  if c.throws then " -> Result<" ++ c.hostResult ++ ", gi::GiError>"
  else if c.results.isEmpty then ""
  else " -> " ++ c.hostResult

theorem signature_eq (c : Call) :
    c.signature = "pub fn " ++ hostName c.analysis.function c.analysis.site.container.isSome ++
      tuple c.paramTexts ++ c.returnText ++ " \x7b" := rfl

theorem word_var (h : c.Spelled strict U) {q : Param} (hq : q ∈ c.params) :
    Word strict q.var ∧ Woven strict U q.host := by
  obtain ⟨p, hp, hparam⟩ := List.mem_filterMap.mp hq
  exact (h.parts p hp).param q hparam

theorem woven_paramTexts (h : c.Spelled strict U) : ∀ t ∈ c.paramTexts, Woven strict U t := by
  refine List.forall_mem_append.mpr ⟨?_, List.forall_mem_map.mpr fun q hq => ?_⟩
  · split
    · exact List.forall_mem_singleton.mpr (woven_fixed rfl)
    · exact List.forall_mem_nil _
  · obtain ⟨hvar, hhost⟩ := word_var h hq
    exact ((Woven.word hvar).link (link rfl)).snoc hhost

theorem woven_returnText (h : c.Spelled strict U) : Woven strict U c.returnText := by
  have hresult := woven_hostResult h
  unfold returnText
  split
  · exact ((closed rfl).add hresult (link rfl)).woven
  · split
    · exact woven_fixed rfl
    · exact (closed rfl).snoc hresult

/-- The signature up to its result type. -/
theorem closed_opening (h : c.Spelled strict U) :
    Closed strict U ("pub fn " ++ hostName c.analysis.function
      c.analysis.site.container.isSome ++ tuple c.paramTexts) :=
  Source.closed_applied ((closed rfl).snoc (.word (word_hostName h.name _))) (woven_paramTexts h)

theorem woven_signature (h : c.Spelled strict U) : Woven strict U c.signature :=
  (((closed_opening h).snoc (woven_returnText h)).link (link rfl)).woven

theorem woven_zeroValue (host : String) : Woven strict U (zeroValue host) := by
  unfold zeroValue
  split
  · exact woven_fixed rfl
  · exact woven_fixed rfl

theorem woven_earlyReturn (c : Call) : Woven strict U c.earlyReturn := by
  unfold earlyReturn
  split
  · exact woven_fixed rfl
  · exact ((closed rfl).add (woven_oneOrTuple (List.forall_mem_map.mpr fun r _ =>
      woven_zeroValue r.2.host)) (link rfl)).woven

theorem woven_lookup (h : c.Spelled strict U) : Woven strict U (Lookup.text c.lookup) := by
  have hnames : Word strict c.lookup.outer ∧ Word strict c.lookup.inner := by
    unfold lookup
    dsimp only
    split
    · next kind container hcontainer => exact ⟨h.container (kind, container) hcontainer, h.name⟩
    · exact ⟨h.name, .fixed rfl⟩
  have hlabel : Woven strict U c.lookup.kind.label := by
    cases c.lookup.kind <;> exact woven_fixed rfl
  have hkind : Woven strict U ("gi::InfoType::" ++ c.lookup.kind.label) := (closed rfl).snoc hlabel
  have hdirect : Woven strict U (if c.lookup.directQuery then "gi::FindMethodFlags::NONE"
      else "gi::FindMethodFlags::NO_CALL_FIND") := by
    split
    · exact woven_fixed rfl
    · exact woven_fixed rfl
  refine (Source.closed_applied (woven_fixed rfl) ?_).woven
  simp only [List.forall_mem_cons]
  exact ⟨woven_number _, .word (Text.word_quoted hnames.1), .word (Text.word_quoted hnames.2),
    woven_number _, woven_number _, hkind, hdirect, List.forall_mem_nil _⟩

theorem woven_lookupSteps (h : c.Spelled strict U) :
    ∀ st ∈ c.lookupSteps, Woven strict U st.text := by
  have hctx : Woven strict U (if c.needsContext then "ctx" else "_") := by
    split
    · exact woven_fixed rfl
    · exact woven_fixed rfl
  have hpattern : Closed strict U ("let " ++ tuple [if c.needsContext then "ctx" else "_",
      c.analysis.invokerVar] ++ " = ") :=
    (closed rfl).add (Source.closed_tuple (List.forall_mem_cons.mpr
      ⟨hctx, List.forall_mem_singleton.mpr (.word h.analysis.invokerVar)⟩)).woven (link rfl)
  have hget := woven_lookup h
  unfold lookupSteps
  dsimp only
  split
  · exact List.forall_mem_singleton.mpr (hpattern.add hget (link rfl)).woven
  · simp only [List.forall_mem_cons]
    exact ⟨((hpattern.link (link rfl)).add hget (link rfl)).woven, woven_fixed rfl, woven_fixed rfl,
      woven_fixed rfl, woven_earlyReturn c, woven_fixed rfl, woven_fixed rfl, List.forall_mem_nil _⟩

theorem word_block (h : c.Spelled strict U) {block : String} (hblock : c.block? = some block) :
    Word strict block := by
  unfold block? at hblock
  rw [Option.ite_none_left_eq_some] at hblock
  rw [← Option.some.inj hblock.2]
  exact h.analysis.outVar

theorem woven_blockSteps (h : c.Spelled strict U) :
    ∀ st ∈ c.blockSteps, Woven strict U st.text := by
  unfold blockSteps
  split
  · exact List.forall_mem_nil _
  · next block hblock =>
      exact List.forall_mem_singleton.mpr (((closed rfl).add (.word (word_block h hblock))
        (link rfl)).add (woven_number _) (link rfl)).woven

theorem woven_slotSteps (h : c.Spelled strict U) : ∀ st ∈ c.slotSteps, Woven strict U st.text := by
  have hslots : ∀ t ∈ c.slots.map (·.text), Woven strict U t := by
    rw [slots, List.map_map]
    exact List.forall_mem_map.mpr fun p hp => (h.parts p hp).slot
  unfold slotSteps
  refine List.forall_mem_append.mpr ⟨?_, ?_⟩
  · split
    · exact List.forall_mem_nil _
    · exact List.forall_mem_singleton.mpr (((closed rfl).add (.word h.analysis.argsVar)
        (link rfl)).add (Source.woven_intercalate (link rfl) hslots) (link rfl)).woven
  · split
    · exact List.forall_mem_singleton.mpr
        ((closed rfl).add (.word h.analysis.resultVar) (link rfl)).woven
    · exact List.forall_mem_nil _

theorem woven_callArgs (h : c.Spelled strict U) {w : String} (hw : Woven strict U w) :
    Closed strict U (w ++ c.callArgs) := by
  refine Source.closed_applied hw ?_
  simp only [List.forall_mem_cons]
  refine ⟨?_, ?_, ?_, List.forall_mem_nil _⟩
  · split
    · exact woven_fixed rfl
    · exact (closed rfl).snoc (.word h.analysis.argsVar)
  · split
    · exact ((closed rfl).add (.word h.analysis.resultVar) (link rfl)).woven
    · exact woven_fixed rfl
  · split
    · exact woven_fixed rfl
    · next block hblock => exact .word ((word_block h hblock).link (link rfl))

theorem woven_errorSteps (h : c.Spelled strict U) :
    ∀ st ∈ c.errorSteps, Woven strict U st.text := by
  unfold errorSteps
  split
  · next k _ =>
      have hplace := Analysis.word_outPlace h.analysis k
      simp only [List.forall_mem_cons]
      exact ⟨((closed rfl).add (.word (word_braced ((hplace.behind rfl).link (link rfl))))
        (link rfl)).woven, woven_fixed rfl, woven_fixed rfl, List.forall_mem_nil _⟩
  · exact List.forall_mem_nil _

theorem woven_resultSteps (h : c.Spelled strict U) :
    ∀ st ∈ c.resultSteps, Woven strict U st.text := by
  have hdone : ∀ {value : String}, Woven strict U value →
      Woven strict U (if c.throws then "Ok(" ++ value ++ ")" else value) := by
    intro value hvalue
    split
    · exact ((closed rfl).add hvalue (link rfl)).woven
    · exact hvalue
  have hresults := h.results
  unfold resultSteps
  dsimp only
  split
  · split
    · exact List.forall_mem_singleton.mpr (woven_fixed rfl)
    · exact List.forall_mem_nil _
  · next heq =>
      rw [heq] at hresults
      exact List.forall_mem_singleton.mpr (hdone (hresults _ List.mem_cons_self).2.value)
  · refine List.forall_mem_append.mpr ⟨List.forall_mem_map.mpr fun r hr => ?_, ?_⟩
    · obtain ⟨hvar, hvalue⟩ := hresults r hr
      exact (((closed rfl).add (.word hvar) (link rfl)).add hvalue.value (link rfl)).woven
    · refine List.forall_mem_singleton.mpr (hdone (Source.closed_tuple ?_).woven)
      exact List.forall_mem_map.mpr fun r hr => .word (hresults r hr).1

theorem woven_act (h : c.Spelled strict U) {x : Act} (hx : x ∈ c.acts) :
    ∀ st ∈ c.stepsOf x, Woven strict U st.text := by
  cases x with
  | lookup => exact woven_lookupSteps h
  | block => exact woven_blockSteps h
  | statement st =>
      obtain ⟨p, hp, hst⟩ := exists_part_of_mem_acts hx
      exact List.forall_mem_singleton.mpr ((h.parts p hp).statements st hst)
  | slots => exact woven_slotSteps h
  | call =>
      have hcall : Closed strict U (c.analysis.invokerVar ++ ".call" ++ c.callArgs) :=
        woven_callArgs h ((Woven.word h.analysis.invokerVar).link (link rfl)).woven
      exact List.forall_mem_singleton.mpr
        ((closed rfl).add (Source.closed_braced hcall.woven).woven (link rfl)).woven
  | errorReturn => exact woven_errorSteps h
  | results => exact woven_resultSteps h

/-- Every line of a generated function is woven. -/
theorem woven_steps (h : c.Spelled strict U) : ∀ st ∈ c.steps, Woven strict U st.text := by
  have hbody : ∀ st ∈ c.acts.flatMap c.stepsOf, Woven strict U st.text := by
    intro st hst
    obtain ⟨x, hx, hst⟩ := List.mem_flatMap.mp hst
    exact woven_act h hx st hst
  have hfunction : ∀ st ∈ c.remarks ++ [Step.opening c.signature] ++ c.acts.flatMap c.stepsOf ++
      [Step.closing "\x7d"], Woven strict U st.text := by
    simp only [List.forall_mem_append, List.forall_mem_singleton]
    exact ⟨⟨⟨woven_remarks h, woven_signature h⟩, hbody⟩, woven_fixed rfl⟩
  rw [steps_eq, framed]
  split
  · next kind container hcontainer =>
      refine List.forall_mem_append.mpr ⟨List.forall_mem_cons.mpr ⟨?_, hfunction⟩, ?_⟩
      · exact ((closed rfl).add (.word (h.container _ hcontainer)) (link rfl)).woven
      · exact List.forall_mem_singleton.mpr (woven_fixed rfl)
  · exact hfunction

end

end Call

end Introspect.Binding
