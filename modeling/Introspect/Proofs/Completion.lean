import Introspect.Proofs.Lengths
import Introspect.Proofs.Links
import Introspect.Proofs.Walk

/-!
# Whether the bindings are written

The bindings of a namespace are written whenever every position they are written from is there. For
the calls of functions it is: the positions a function refers to have been checked with the
document, and the slots are counted before they are used. A callback brings the position of its own
user data. But the table of callbacks is kept by name, and where a name occurs twice the last
callback decides how all of them are bound. Then the user data may stand where an earlier callback
has no argument, and nothing is written at all.
-/

namespace Introspect.Binding

open Naming (Locals)

/-! ## Callbacks -/

/-- The callback has a native signature. -/
def Callback.Mapped (s : Scope) (cb : Introspect.Callback) : Prop :=
  ∃ t, Trampoline.of s cb = .ok t

/-- Bound in this way, the user data of the callback stands at one of its arguments. -/
def Callback.HasData (s : Scope) (cb : Introspect.Callback) (kind : CallbackKind) : Prop :=
  ∀ u, kind = .closure u → Mapped s cb → u < cb.args.length

theorem Trampoline.length_paramsFrom {s : Scope} {args : List Argument} :
    ∀ {i : Nat} {l l' : Locals} {ps : List TrampolineParam},
      paramsFrom s i l args = .ok (ps, l') → ps.length = args.length := by
  induction args with
  | nil =>
      intro i l l' ps h
      cases h
      rfl
  | cons a rest ih =>
      intro i l l' ps h
      rw [paramsFrom] at h
      split at h
      · cases h
      · split at h
        · cases h
        · next cell hcell =>
            dsimp only at h
            cases hrest : paramsFrom s (i + 1) (l.register i a.name).2 rest with
            | error reason =>
                rw [hrest] at h
                cases h
            | ok read =>
                rw [hrest] at h
                cases h
                rw [List.length_cons, List.length_cons, ih hrest]

/-- A signature is made of its parameters and of its result. -/
theorem Trampoline.of_eq_ok {s : Scope} {cb : Introspect.Callback} {t : Trampoline} {l : Locals}
    (h : Trampoline.of s cb = .ok (t, l)) :
    paramsFrom s 0 {} cb.args = .ok (t.params, l) ∧ Result.of? s cb.returns = some t.result := by
  rw [Trampoline.of] at h
  cases hparams : paramsFrom s 0 {} cb.args with
  | error reason =>
      rw [hparams] at h
      cases h
  | ok read =>
      rw [hparams] at h
      dsimp only [bind, Except.bind] at h
      split at h
      · next hresult =>
          cases h
          exact ⟨rfl, hresult⟩
      · cases h

theorem Trampoline.length_params {s : Scope} {cb : Introspect.Callback} {t : Trampoline}
    {l : Locals} (h : Trampoline.of s cb = .ok (t, l)) : t.params.length = cb.args.length :=
  length_paramsFrom (of_eq_ok h).1

/-- A callback is written unless it has no argument where its user data is said to be. -/
theorem Callback.isSome_steps?_iff {s : Scope} {cb : Introspect.Callback} {kind : CallbackKind} :
    (steps? s cb kind).isSome ↔ HasData s cb kind := by
  unfold HasData
  cases kind with
  | manual =>
      rw [steps?]
      cases Trampoline.of s cb <;> simp
  | unsupported reason => simp [steps?]
  | closure u =>
      rw [steps?, ClosureBinding.of, Mapped]
      cases ht : Trampoline.of s cb with
      | error reason => simp
      | ok read =>
          obtain ⟨t, l⟩ := read
          have hlength := Trampoline.length_params ht
          cases hu : t.params[u]? with
          | none =>
              have := List.getElem?_eq_none_iff.mp hu
              simp [hu]
              omega
          | some p =>
              have := (List.getElem?_eq_some_iff.mp hu).1
              simp [hu]
              omega

/-- A callback is bound as a closure when it has a signature and user data, and all its other
arguments have host types. -/
theorem CallbackKind.of_classify_closure {s : Scope} {cb : Introspect.Callback} {u : Nat}
    (h : classify s cb = .closure u) :
    ∃ t l, Trampoline.of s cb = .ok (t, l) ∧ userDataIndex cb.args = some u ∧
      ∀ x ∈ (Trampoline.hostParams s u 0 l (cb.args.zip t.params)).1, x.2.host ≠ todoType := by
  unfold classify at h
  split at h
  · cases h
  · next t l ht =>
      split at h
      · cases h
      · split at h
        · cases h
        · next v hv =>
            dsimp only at h
            split at h
            · cases h
            · next hmapped =>
                cases h
                refine ⟨t, l, ht, hv, fun x hx htodo => ?_⟩
                exact List.find?_eq_none.mp hmapped x hx (decide_eq_true htodo)

theorem CallbackKind.of_classify_manual {s : Scope} {cb : Introspect.Callback}
    (h : classify s cb = .manual) : ∃ t l, Trampoline.of s cb = .ok (t, l) := by
  unfold classify at h
  split at h
  · cases h
  · next t l ht => exact ⟨t, l, ht⟩

/-- A callback that is bound as a closure has its user data among its own arguments. -/
theorem CallbackKind.hasData_classify (s : Scope) (cb : Introspect.Callback) :
    Callback.HasData s cb (classify s cb) := by
  intro u hkind _
  obtain ⟨_, _, -, hdata, -⟩ := of_classify_closure hkind
  exact (List.findIdx?_eq_some_iff_findIdx_eq.mp hdata).1

/-! ## Items -/

theorem functionItem_ne_callback {s : Scope} {f : Function} {index m : Nat}
    {container : Option (ContainerKind × Introspect.Container)} {n : Counters}
    {cb : Introspect.Callback} {kind : CallbackKind} :
    (functionItem s f index m container n).1 ≠ .callback cb kind := by
  unfold functionItem
  dsimp only
  split <;> nofun

theorem callback_mem_itemsFrom {e : Env} {infos : List Info} {cb : Introspect.Callback}
    {kind : CallbackKind} {index : Nat} {n : Counters} :
    .callback cb kind ∈ (itemsFrom e index n infos).1 ↔
      .callback cb ∈ infos ∧ e.callback? cb.name = some kind := by
  constructor
  · intro h
    obtain ⟨k, info, hinfo, hleaves⟩ := leaves_of_mem h
    generalize hitem : Item.callback cb kind = item at hleaves
    cases hleaves with
    | callback hkind =>
        cases hitem
        exact ⟨List.mem_of_getElem? hinfo, hkind⟩
    | function | method => exact absurd hitem.symm functionItem_ne_callback
    | ignored | container | enum | flags | constant => cases hitem
  · rintro ⟨hcb, hkind⟩
    obtain ⟨index', n', hsub⟩ := exists_infoItems_subset index n hcb
    refine hsub ?_
    rw [infoItems, hkind]
    exact List.mem_singleton_self _

theorem isSome_generate?_iff {s : Scope} {start : Counters} :
    (generate? s start).isSome ↔
      ∀ item ∈ (itemsFrom (Env.of s) 0 start s.space.infos).1, (item.steps? (Env.of s)).isSome := by
  have hany : ∀ {α : Type} (o : Option α), (o.any fun _ => true) = o.isSome := by
    intro α o
    cases o <;> rfl
  unfold generate?
  simp only [Option.pure_def, Option.bind_eq_bind, Option.isSome_bind, Option.isSome_some, hany,
    isSome_mapM_iff]

/-- The bindings are written exactly when no callback lacks an argument for its user data. -/
theorem generate?_isSome_iff {s : Scope} {start : Counters} :
    (generate? s start).isSome ↔ ∀ cb, .callback cb ∈ s.space.infos →
      ∀ kind ∈ (Env.of s).callback? cb.name, Callback.HasData s cb kind := by
  rw [isSome_generate?_iff]
  constructor
  · intro h cb hcb kind hkind
    have hsome := h _ (callback_mem_itemsFrom.mpr ⟨hcb, hkind⟩)
    exact Callback.isSome_steps?_iff.mp hsome
  · intro h item hitem
    cases item with
    | callback cb kind =>
        obtain ⟨hcb, hkind⟩ := callback_mem_itemsFrom.mp hitem
        exact Callback.isSome_steps?_iff.mpr (h cb hcb kind hkind)
    | function f site | blackFunction name | container k c getType | ignored reason
    | enumeration en isFlags getType | constant c => rfl

/-! ## Names of callbacks -/

/-- A name is bound by the last callback that has it. -/
theorem exists_callback_of_callback? {s : Scope} {name : String} {kind : CallbackKind}
    (h : (Env.of s).callback? name = some kind) :
    ∃ cb, .callback cb ∈ s.space.infos ∧ cb.name = name ∧ kind = CallbackKind.classify s cb := by
  have hmem := mem_of_lookup h
  rw [Env.of, List.mem_reverse, List.mem_filterMap] at hmem
  obtain ⟨info, hinfo, heq⟩ := hmem
  cases info with
  | callback cb =>
      cases heq
      exact ⟨cb, hinfo, rfl, rfl⟩
  | function f | container k c | enum en | flags en | constant c => cases heq

/-- Where no two callbacks share a name the bindings are always written. -/
theorem isSome_generate?_of_nodup {s : Scope} (start : Counters)
    (h : ∀ cb cb', .callback cb ∈ s.space.infos → .callback cb' ∈ s.space.infos →
      cb.name = cb'.name → cb = cb') : (generate? s start).isSome := by
  rw [generate?_isSome_iff]
  intro cb hcb kind hkind
  obtain ⟨cb', hcb', hname, rfl⟩ := exists_callback_of_callback? hkind
  rw [h cb cb' hcb hcb' hname.symm]
  exact CallbackKind.hasData_classify s cb'

/-! ## Functions -/

/-- Every position that the call of a function is written from is that of an argument, and every
slot is one of the out block. -/
structure Analysis.InRange (an : Analysis) : Prop where
  /-- What the description refers to. -/
  links : ∀ a ∈ an.function.args, ∀ i ∈ a.links, i < an.function.args.length
  /-- The lengths that are filled in, and the arrays they come from. -/
  hidden : ∀ i h, an.hidden.lookup i = some h →
    i < an.function.args.length ∧ ∀ m, h = .fromArray m → m < an.function.args.length
  /-- The data of callbacks. -/
  data : ∀ j i, an.dataOf.lookup j = some i →
    j < an.function.args.length ∧ i < an.function.args.length
  /-- The releases of callbacks. -/
  release : ∀ d i, an.releaseOf.lookup d = some i →
    d < an.function.args.length ∧ i < an.function.args.length
  /-- The slots of arguments. -/
  slot : ∀ i k, an.outSlot? i = some k → i < an.function.args.length ∧ k < an.outCount
  /-- The slot for an error. -/
  error : ∀ k, an.errorSlot = some k → k < an.outCount

section
variable {e : Env} {f : Function} {site : Site}

theorem exists_destroy_of_releaseOf {d i : Nat}
    (h : (d, i) ∈ (Analysis.of e f site).1.releaseOf) :
    ∃ a, f.args[i]? = some a ∧ a.destroy = some d := by
  revert h
  unfold Analysis.of
  refine List.foldlRecOn (motive := fun st : Analysis × Locals => (d, i) ∈ st.1.releaseOf →
    ∃ a, f.args[i]? = some a ∧ a.destroy = some d) _ _ ?_ ?_
  · intro h
    cases h
  · intro st ih x hx h
    dsimp only at h
    rw [Analysis.pair_eq_match] at h
    cases hj : Analysis.dataArg? f st.1 x.1 x.2 with
    | none =>
        rw [hj] at h
        exact ih h
    | some j =>
        rw [hj] at h
        rcases List.mem_append.mp h with h | h
        · obtain ⟨d', hd', heq⟩ := Option.map_eq_some_iff.mp (Option.mem_toList.mp h)
          cases heq
          exact ⟨x.1, List.mem_zipIdx_iff_getElem?.mp hx, (Option.filter_eq_some_iff.mp hd').1⟩
        · exact ih h

theorem lt_length_of_getElem? {α : Type} {xs : List α} {i : Nat} {x : α} (h : xs[i]? = some x) :
    i < xs.length :=
  (List.getElem?_eq_some_iff.mp h).1

/-- A call is written from positions in range if the function refers to its own arguments. -/
theorem Analysis.inRange_of (h : (Prototype.ofFunction f).ArgumentsClosed) :
    (Analysis.of e f site).1.InRange where
  links := by
    rw [Analysis.of_function]
    exact h
  hidden := by
    rw [Analysis.of_function]
    intro i l hl
    obtain ⟨owner, -, a, hfills⟩ := exists_fills_of_hidden hl
    refine ⟨lt_length_of_getElem? hfills.argument, ?_⟩
    rintro m rfl
    obtain ⟨-, -, b, hb, -⟩ := hfills.warranted
    exact lt_length_of_getElem? hb
  data := by
    rw [Analysis.of_function]
    intro j i hji
    obtain ⟨a, b, hnames⟩ := names_of_dataOf hji
    exact ⟨lt_length_of_getElem? hnames.data, lt_length_of_getElem? hnames.callback⟩
  release := by
    rw [Analysis.of_function]
    intro d i hdi
    obtain ⟨a, ha, hdestroy⟩ := exists_destroy_of_releaseOf (mem_of_lookup hdi)
    refine ⟨h a (List.mem_of_getElem? ha) d ?_, lt_length_of_getElem? ha⟩
    rw [Argument.links, hdestroy]
    simp
  slot := by
    intro i k hk
    obtain ⟨a, ha, -, -⟩ := (Analysis.outSlot?_of_eq_some e site).mp hk
    rw [Analysis.of_function]
    exact ⟨lt_length_of_getElem? ha, Analysis.lt_outCount_of_outSlot e f site hk⟩
  error := by
    intro k hk
    rw [Analysis.errorSlot] at hk
    split at hk
    · next hthrows =>
        cases hk
        rw [Analysis.outCount, hthrows]
        exact Nat.lt_succ_self _
    · cases hk

end

/-! ## Accepted documents -/

theorem prototype_of_pointsTo {ns : Namespace} {f : Function} {site : Site}
    (h : site.PointsTo ns.infos f) : Prototype.ofFunction f ∈ ns.prototypes := by
  rw [Namespace.prototypes, List.mem_flatMap]
  unfold Site.PointsTo at h
  cases hc : site.container with
  | none =>
      rw [hc] at h
      exact ⟨_, List.mem_of_getElem? h, List.mem_singleton_self _⟩
  | some container =>
      rw [hc] at h
      exact ⟨_, List.mem_of_getElem? h.1, List.mem_map_of_mem (List.mem_of_getElem? h.2)⟩

/-- From an accepted document every call is written from positions in range, and every argument of a
callback has its parameter. The bindings are written unless a callback, bound as the last one of its
name, has no argument where that one has its user data. -/
theorem generate?_of_ofText {text : String} {ns : Namespace} (h : Namespace.ofText text = .ok ns)
    (config : Config) (start : Counters) :
    let s : Scope := ⟨ns, config⟩
    ((generate? s start).isSome ↔ ∀ cb, .callback cb ∈ ns.infos →
      ∀ kind ∈ (Env.of s).callback? cb.name, Callback.HasData s cb kind) ∧
    (∀ f site, .function f site ∈ (itemsFrom (Env.of s) 0 start ns.infos).1 →
      (Analysis.of (Env.of s) f site).1.InRange) ∧
    ∀ cb t l, Trampoline.of s cb = .ok (t, l) → t.params.length = cb.args.length := by
  refine ⟨generate?_isSome_iff, fun f site hitem => ?_, fun cb t l => Trampoline.length_params⟩
  have hmem := prototype_of_pointsTo (pointsTo_of_mem hitem)
  exact Analysis.inRange_of ((Namespace.ofText_eq_ok_iff.mp h).2 _ hmem)

/-- Two callbacks of one name, both with a pointer for their user data. -/
def namesakes (first second : List Argument) : Namespace :=
  { name := "Demo", version := "1.0",
    infos := [.callback { name := "Dup", args := first },
    .callback { name := "Dup", args := second }] }

/-- The pointer that a callback finds its closure by. -/
def dataArgument : Argument := { name := "user_data", type := .voidPointer }

/-- A number that a callback is called with. -/
def valueArgument : Argument := { name := "x", type := .scalar .int32 }

theorem ofText_render_namesakes (first second : List Argument)
    (hfirst : first ⊆ [valueArgument, dataArgument])
    (hsecond : second ⊆ [valueArgument, dataArgument]) :
    Namespace.ofText (namesakes first second).render = .ok (namesakes first second) := by
  have hfits : ∀ a ∈ [valueArgument, dataArgument], a.Fits := by
    simp [valueArgument, dataArgument, Argument.Fits, NativeType.Fits, Shape.Fits,
      NativeType.scalar, NativeType.voidPointer, NativeType.void, NativeType.pointer,
      NativeType.mapShape]
  have hvoid : NativeType.void.Fits := by
    simp [NativeType.Fits, Shape.Fits, NativeType.void, NativeType.scalar]
  have hlinks : ∀ a ∈ [valueArgument, dataArgument], a.links = [] := by decide
  have hnesting : ∀ a ∈ [valueArgument, dataArgument], a.type.nesting ≤ 0 := by decide
  have hcallback : ∀ args ⊆ [valueArgument, dataArgument],
      (Info.callback { name := "Dup", args }).Fits ∧
      (∀ t ∈ (Info.callback { name := "Dup", args }).types, t.nesting ≤ 0) ∧
      ∀ p ∈ (Info.callback { name := "Dup", args }).prototypes, p.ArgumentsClosed := by
    intro args hargs
    refine ⟨⟨fun a ha => hfits a (hargs ha), hvoid⟩, ?_, ?_⟩
    · rw [Info.types, List.forall_mem_cons, List.forall_mem_map]
      exact ⟨Nat.le_refl 0, fun a ha => hnesting a (hargs ha)⟩
    · intro p hp a ha i hi
      cases List.mem_singleton.mp hp
      rw [hlinks a (hargs ha)] at hi
      cases hi
  have h : ∀ info ∈ (namesakes first second).infos, info.Fits ∧ info.FloatFree ∧
      (∀ t ∈ info.types, t.nesting ≤ 0) ∧ ∀ p ∈ info.prototypes, p.ArgumentsClosed := by
    have h₁ := hcallback first hfirst
    have h₂ := hcallback second hsecond
    rw [namesakes, List.forall_mem_cons, List.forall_mem_singleton]
    exact ⟨⟨h₁.1, trivial, h₁.2⟩, h₂.1, trivial, h₂.2⟩
  have hdepth : (namesakes first second).toJson.depth ≤ 9 :=
    Namespace.depth_toJson_le fun info hinfo => (h info hinfo).2.2.1
  refine Namespace.ofText_eq_ok_iff.mpr ⟨Namespace.parse_render (fun i hi => (h i hi).1)
    (fun i hi => (h i hi).2.1) (Nat.lt_of_le_of_lt hdepth (by decide)), fun p hp => ?_⟩
  obtain ⟨info, hinfo, hp⟩ := List.mem_flatMap.mp hp
  exact (h info hinfo).2.2.2 p hp

theorem isSome_generate?_namesakes :
    (generate? ⟨namesakes [valueArgument, dataArgument] [dataArgument], {}⟩ {}).isSome := by
  have haccepted := ofText_render_namesakes [valueArgument, dataArgument] [dataArgument] (by simp)
    (by simp)
  refine (generate?_of_ofText haccepted {} {}).1.mpr fun cb hcb kind hkind u hu _ => ?_
  have hname : cb.name = "Dup" := by
    rcases List.mem_cons.mp hcb with h | h
    · cases h
      rfl
    · cases List.mem_singleton.mp h
      rfl
  have hbound : (Env.of ⟨namesakes [valueArgument, dataArgument] [dataArgument], {}⟩).callback?
      "Dup" = some (.closure 0) := rfl
  rw [hname, hbound] at hkind
  cases hkind
  cases hu
  rcases List.mem_cons.mp hcb with h | h
  · cases h
    decide
  · cases List.mem_singleton.mp h
    decide

/-- The first callback has no second argument, where the second one has its user data. -/
theorem generate?_namesakes_eq_none :
    ∃ text, Namespace.ofText text = .ok (namesakes [dataArgument] [valueArgument, dataArgument]) ∧
      generate? ⟨namesakes [dataArgument] [valueArgument, dataArgument], {}⟩ {} = none :=
  ⟨_, ofText_render_namesakes _ _ (by simp) (by simp), rfl⟩

end Introspect.Binding
