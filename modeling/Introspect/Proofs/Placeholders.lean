import Introspect.Proofs.Completion
import Introspect.Proofs.Vocabulary

/-!
# Placeholders

A function is counted as unfinished by what its lines show. What it could not bind is known from its
host types: a parameter or a value has the placeholder type. The two agree. The signature shows
every host type, whatever stands around it; and where no host type is the placeholder, every line is
woven strictly, from words that show nothing undone.
-/

namespace Introspect.Source

/-! ## Lines that show nothing undone -/

theorem isUnfinished_eq_false {line : String} (h : Finished line.toList) (k : Nat) :
    isUnfinished (indented k line) = false := by
  have hindented : Finished (indented k line).toList := by
    obtain ⟨n, hn⟩ := Block.toList_indented k line
    have hblank : 'T' ∉ List.replicate n ' ' := fun hmem =>
      absurd (List.eq_of_mem_replicate hmem) (by decide)
    rw [hn]
    exact Finished.append ⟨fun hin => hblank (hin.subset List.mem_cons_self),
      fun hin => hblank (hin.subset List.mem_cons_self)⟩ h (apart_blanks n)
  rw [isUnfinished, Bool.or_eq_false_iff, ← Bool.not_eq_true, ← Bool.not_eq_true, occursIn_iff,
    occursIn_iff]
  refine ⟨hindented.1, fun hin => hindented.2 (List.IsInfix.trans ?_ hin)⟩
  exact ⟨['g', 'i', ':', ':'], [], rfl⟩

theorem Block.containsTodo_eq_false {steps : List Step}
    (h : ∀ st ∈ steps, Finished (stripped st.text.toList)) :
    (ofSteps steps).containsTodo = false := by
  refine List.any_eq_false.mpr fun line hline => ?_
  obtain ⟨st, hst, k, rfl⟩ := exists_step_of_mem hline
  rw [Bool.not_eq_true]
  refine isUnfinished_eq_false ?_ k
  rw [toList_strip]
  exact h st hst

end Introspect.Source

namespace Introspect.Binding

open Source (Step Block Stats Plain Finished Word Woven Closed Link ShownIn apart_of_last
  closed link)

variable {strict : Prop} {U : String → String → Prop}

/-! ## What a signature shows -/

namespace Call

variable {c : Call} {host : String}

theorem shownIn_oneOrTuple {ts : List String} (h : ∀ t ∈ ts, Woven strict U t) (hhost : host ∈ ts) :
    ShownIn host (oneOrTuple ts) := by
  unfold oneOrTuple
  split
  · rw [List.mem_singleton.mp hhost]
    exact .refl _
  · exact .tuple h hhost

theorem shownIn_hostResult (h : c.Spelled strict U) (hhost : host ∈ c.results.map (·.2.host)) :
    ShownIn host c.hostResult :=
  shownIn_oneOrTuple (List.forall_mem_map.mpr fun r hr => (h.results r hr).2.host) hhost

theorem shownIn_returnText (h : c.Spelled strict U) (hhost : host ∈ c.results.map (·.2.host)) :
    ShownIn host c.returnText := by
  have hresult := woven_hostResult h
  have hshown := shownIn_hostResult h hhost
  have hopen : Closed strict U " -> Result<" := closed rfl
  have harrow : Closed strict U " -> " := closed rfl
  have hclose : Link ", gi::GiError>" := link rfl
  unfold returnText
  split
  · exact (hshown.append_right hopen.woven (apart_of_last hopen.last)).append_left
      (hopen.snoc hresult) (hclose.apart _)
  · split
    · next hempty =>
        rw [List.isEmpty_iff.mp hempty] at hhost
        cases hhost
    · exact hshown.append_right harrow.woven (apart_of_last harrow.last)

theorem shownIn_paramTexts (h : c.Spelled strict U) (hhost : host ∈ c.params.map (·.host)) :
    ∃ t ∈ c.paramTexts, ShownIn host t := by
  obtain ⟨q, hq, rfl⟩ := List.mem_map.mp hhost
  refine ⟨_, List.mem_append_right _ (List.mem_map.mpr ⟨q, hq, rfl⟩), ?_⟩
  have hvar : Closed strict U (q.var ++ ": ") := (Woven.word (word_var h hq).1).link (link rfl)
  exact (ShownIn.refl q.host).append_right hvar.woven (apart_of_last hvar.last)

/-- The signature shows the host types of all parameters and values. -/
theorem shownIn_signature (h : c.Spelled strict U) (hhost : host ∈ c.hosts) :
    ShownIn host c.signature := by
  have hname : Woven strict U ("pub fn " ++ hostName c.analysis.function
      c.analysis.site.container.isSome) := (closed rfl).snoc (.word (word_hostName h.name _))
  have hopening := closed_opening h
  have hmeet : Source.Apart ("pub fn " ++ hostName c.analysis.function
      c.analysis.site.container.isSome ++ tuple c.paramTexts).toList c.returnText.toList :=
    apart_of_last hopening.last
  have hbrace : Link " \x7b" := link rfl
  rw [signature_eq]
  refine ShownIn.append_left ?_ (hopening.snoc (woven_returnText h)) (hbrace.apart _)
  rcases List.mem_append.mp hhost with hhost | hhost
  · obtain ⟨t, ht, hshown⟩ := shownIn_paramTexts h hhost
    have htuple := hshown.trans (.tuple (woven_paramTexts h) ht)
    exact (htuple.append_right hname (Source.apart_tuple _ _)).append_left hopening.woven hmeet
  · exact (shownIn_returnText h hhost).append_right hopening.woven hmeet

theorem signature_mem_steps (c : Call) : Step.opening c.signature ∈ c.steps := by
  rw [steps_eq, framed]
  split <;> simp

end Call

/-! ## Functions left unfinished -/

theorem Spells.mono {strict' : Prop} {s : Scope} {t : NativeType} (h : Spells strict U s t)
    (hstrict : strict' → strict) : Spells strict' U s t := fun r hr =>
  ⟨(h r hr).1.mono hstrict, (h r hr).2.mono hstrict fun _ _ => id⟩

theorem Named.mono {strict' : Prop} {e : Env} {f : Function} {site : Site}
    (h : Named strict U e f site) (hstrict : strict' → strict) : Named strict' U e f site where
  name := h.name.mono hstrict
  symbol := h.symbol.mono hstrict
  args a ha := ⟨(h.args a ha).1.mono hstrict, (h.args a ha).2.mono hstrict⟩
  returns := h.returns.mono hstrict
  container p hp := (h.container p hp).mono hstrict

/-- The lines of a function show something undone exactly when one of its parameters or values has
the placeholder type. -/
theorem containsTodo_iff {e : Env} {f : Function} {site : Site}
    (hU : U "*mut c_void" "std::ffi::c_void") (h : Named True U e f site) :
    (functionBlock e f site).containsTodo = true ↔ todoType ∈ (Call.of e f site).hosts := by
  constructor
  · intro htodo
    by_contra hmapped
    have hwoven := Call.woven_steps (Call.spelled_of hU h fun _ => hmapped)
    rw [functionBlock, Block.containsTodo_eq_false fun st hst => (hwoven st hst).finished trivial]
      at htodo
    cases htodo
  · intro hhost
    have hspelled := Call.spelled_of hU (h.mono False.elim) False.elim
    have hshown := Call.shownIn_signature hspelled hhost
    refine Block.containsTodo_of_mem (Call.signature_mem_steps _) ?_
    have hkept : todoType.toList <:+: (Source.strip (Call.of e f site).signature).toList := by
      rw [Source.toList_strip]
      exact hshown
    exact Source.isUnfinished_of_infix hkept (by decide)

/-! ## Counting them -/

/-- The functions of a symbol that are bound, with their containers: those that the settings do not
leave out, of a symbol that is not ignored. -/
def Info.bound (s : Scope) : Info → List (Function × Option (ContainerKind × Introspect.Container))
  | .function f => if s.config.isBlack (identity f none) then [] else [(f, none)]
  | .container kind c =>
      if (ignoredReason? s c kind).isSome then []
      else (c.methods.filter fun f => !s.config.isBlack (identity f (some c))).map
        fun f => (f, some (kind, c))
  | .callback _ | .enum _ | .flags _ | .constant _ => []

/-- A function with the container it is called through. -/
def placed (c : Function × Site) : Function × Option (ContainerKind × Introspect.Container) :=
  (c.1, c.2.container)

section
variable {s : Scope} {e : Env}

theorem placed_functionItem {f : Function} {index m : Nat} {n : Counters}
    {container : Option (ContainerKind × Introspect.Container)} :
    (emitted [(functionItem s f index m container n).1]).map placed =
      if s.config.isBlack (identity f (container.map Prod.snd)) then [] else [(f, container)] := by
  unfold functionItem
  dsimp only
  split <;> rfl

theorem placed_methodItems {kind : ContainerKind} {c : Introspect.Container} {index : Nat}
    {fs : List Function} : ∀ {i : Nat} {n : Counters},
      (emitted (methodItems s kind c index i n fs).1).map placed =
        (fs.filter fun f => !s.config.isBlack (identity f (some c))).map
          fun f => (f, some (kind, c)) := by
  induction fs with
  | nil => intro i n; rfl
  | cons f rest ih =>
      intro i n
      show (emitted ([(functionItem s f index i (some (kind, c)) n).1] ++
        (methodItems s kind c index (i + 1)
          (functionItem s f index i (some (kind, c)) n).2 rest).1)).map placed = _
      rw [emitted_append, List.map_append, ih, placed_functionItem, List.filter_cons,
        Option.map_some]
      cases s.config.isBlack (identity f (some c)) <;> rfl

theorem placed_infoItems {index : Nat} {n : Counters} {info : Info} :
    (emitted (infoItems e index info n).1).map placed = Info.bound e.scope info := by
  unfold infoItems Info.bound
  cases info with
  | function f => exact placed_functionItem
  | callback cb =>
      dsimp only
      split <;> rfl
  | container kind c =>
      dsimp only
      cases ignoredReason? e.scope c kind with
      | some reason => rfl
      | none => exact placed_methodItems
  | enum en | flags en | constant c => rfl

/-- The walk writes the functions that are bound, in their order. -/
theorem placed_itemsFrom {infos : List Info} : ∀ {index : Nat} {n : Counters},
    (emitted (itemsFrom e index n infos).1).map placed = infos.flatMap (Info.bound e.scope) := by
  induction infos with
  | nil => intro index n; rfl
  | cons info rest ih =>
      intro index n
      rw [itemsFrom, emitted_append, List.map_append, placed_infoItems, ih, List.flatMap_cons]

end

/-- The count takes every function, and those of them whose blocks show something undone. -/
theorem stats_foldl {e : Env} {items : List Item} : ∀ {blocks : List (Item × Block)} {st : Stats},
    (items.mapM fun item => do return (item, Block.ofSteps (← item.steps? e))) = some blocks →
      blocks.foldl (fun st (item, b) => if item.isFunction then st.record b else st) st =
        { functions := st.functions + (emitted items).length
          unfinished := st.unfinished +
            (emitted items).countP fun c => (functionBlock e c.1 c.2).containsTodo } := by
  induction items with
  | nil =>
      intro blocks st h
      cases h
      rfl
  | cons item rest ih =>
      intro blocks st h
      rw [List.mapM_cons] at h
      obtain ⟨b, hb, h⟩ := Option.bind_eq_some_iff.mp h
      obtain ⟨bs, hbs, h⟩ := Option.bind_eq_some_iff.mp h
      obtain rfl := Option.some.inj h
      obtain ⟨steps, hsteps, hblock⟩ := Option.bind_eq_some_iff.mp hb
      obtain rfl := Option.some.inj hblock
      rw [List.foldl_cons, ih hbs]
      cases item with
      | function f site =>
          obtain rfl := Option.some.inj hsteps
          show Stats.mk ((st.record (functionBlock e f site)).functions + (emitted rest).length)
            ((st.record (functionBlock e f site)).unfinished + (emitted rest).countP _) = _
          rw [show emitted (Item.function f site :: rest) = (f, site) :: emitted rest from rfl,
            List.length_cons, List.countP_cons, Stats.mk.injEq]
          unfold Stats.record
          refine ⟨Nat.add_right_comm _ _ _, ?_⟩
          cases (functionBlock e f site).containsTodo with
          | true => exact Nat.add_right_comm _ _ _
          | false => rfl
      | blackFunction | callback | container | ignored | enumeration | constant => rfl

theorem stats_of_generate {s : Scope} {start : Counters} {g : Generated}
    (hg : generate? s start = some g) :
    g.stats =
      { functions := (emitted (itemsFrom (Env.of s) 0 start s.space.infos).1).length
        unfinished := (emitted (itemsFrom (Env.of s) 0 start s.space.infos).1).countP
          fun c => (functionBlock (Env.of s) c.1 c.2).containsTodo } := by
  unfold generate? at hg
  obtain ⟨blocks, hblocks, hg⟩ := Option.bind_eq_some_iff.mp hg
  obtain rfl := Option.some.inj hg
  have hstats := @stats_foldl (Env.of s) _ blocks {} hblocks
  rw [Nat.zero_add, Nat.zero_add] at hstats
  exact hstats

/-- The names and the modules of a namespace are words when no comment opens in them and no name
shows something undone. -/
theorem worded_of {s : Scope}
    (hnames : ∀ n ∈ s.space.names ++ s.space.symbols, Plain n.toList ∧ Finished n.toList)
    (hhomes : ∀ n ∈ s.space.homes ++ s.config.deps, Uncommented n.toList) :
    s.Worded True fun _ _ => True where
  names n hn :=
    have h := hnames n (List.mem_append_left _ hn)
    ⟨h.1, fun _ => h.2⟩
  symbols n hn :=
    have h := hnames n (List.mem_append_right _ hn)
    ⟨h.1, fun _ => h.2⟩
  homes _ hr _ hhome := ⟨hhomes _ (Scope.dependency_mem hr hhome), trivial⟩

/-- The statistics of a run are exact: they count the functions that are bound, and among them those
with a parameter or a value of the placeholder type, which are just those whose blocks show
something undone. -/
theorem stats_exact {s : Scope} {start : Counters} {g : Generated}
    (hnames : ∀ n ∈ s.space.names ++ s.space.symbols, Plain n.toList ∧ Finished n.toList)
    (hhomes : ∀ n ∈ s.space.homes ++ s.config.deps, Uncommented n.toList)
    (hg : generate? s start = some g) :
    let e := Env.of s
    let functions := emitted (itemsFrom e 0 start s.space.infos).1
    functions.map placed = s.space.infos.flatMap (Info.bound s) ∧
    (∀ c ∈ functions, (functionBlock e c.1 c.2).containsTodo = true ↔
      todoType ∈ (Call.of e c.1 c.2).hosts) ∧
    g.stats =
      { functions := functions.length
        unfinished := functions.countP fun c => todoType ∈ (Call.of e c.1 c.2).hosts } := by
  intro e functions
  have hiff : ∀ c ∈ functions, (functionBlock e c.1 c.2).containsTodo = true ↔
      todoType ∈ (Call.of e c.1 c.2).hosts := fun c hc =>
    containsTodo_iff trivial ((worded_of hnames hhomes).named hc)
  refine ⟨placed_itemsFrom, hiff, ?_⟩
  rw [stats_of_generate hg, Stats.mk.injEq]
  refine ⟨rfl, List.countP_congr fun c hc => ?_⟩
  rw [hiff c hc, decide_eq_true_iff]

/-! ## Functions of widgets -/

/-- A type of another namespace, passed by pointer. -/
def foreignType (name home : String) : NativeType :=
  .plain { tag := .interface, isPointer := true
           reference := some { kind := .struct, name := name, home := some home } }

/-- A function that takes a foreign value by pointer and one by value, and a method that is left
out. -/
def drawing : Namespace :=
  { name := "Demo", version := "1.0"
    infos := [
      .function { name := "draw", symbol := "demo_draw"
                  args := [{ name := "on", type := foreignType "Surface" "Cairo" }] },
      .function { name := "fill", symbol := "demo_fill"
                  args := [{ name := "box"
                             type := .plain
                               { tag := .interface
                                 reference := some { kind := .struct, name := "Box" } } }] },
      .container .object { name := "Widget"
                           methods := [{ name := "show", symbol := "demo_widget_show" }] }] }

/-- The namespace, with one function left out and a dependency. -/
def drawn : Scope := ⟨drawing, { black := ["Widget.show"], deps := ["Cairo-1.0"] }⟩

theorem isSome_generate?_drawn : (generate? drawn {}).isSome := by
  rw [generate?_isSome_iff]
  intro cb hcb
  simp [drawn, drawing] at hcb

theorem stats_drawn :
    ∃ g, generate? drawn {} = some g ∧ g.stats = { functions := 2, unfinished := 1 } := by
  obtain ⟨g, hg⟩ := Option.isSome_iff_exists.mp isSome_generate?_drawn
  refine ⟨g, hg, (stats_exact (by decide) (by decide) hg).2.2.trans ?_⟩
  decide +kernel

/-- The namespace of a type whose name ends the directive early. -/
def broken : Namespace :=
  { name := "Demo", version := "1.0"
    infos := [.function { name := "f", symbol := "demo_f"
                          args := [{ name := "x", type := foreignType "gi::To" "x*/do" }] }] }

theorem ofText_render_broken : Namespace.ofText broken.render = .ok broken := by
  have hfits : broken.Fits := by
    simp [broken, foreignType, Namespace.Fits, Info.Fits, Function.Fits, Argument.Fits,
      NativeType.Fits, Shape.Fits, NativeType.void, NativeType.scalar]
  have hfloat : ∀ i ∈ broken.infos, i.FloatFree := by simp [broken, Info.FloatFree]
  have hdepth : broken.toJson.depth = 7 := rfl
  rw [Namespace.ofText, Namespace.parse_render hfits hfloat (by rw [hdepth]; decide)]
  rfl

/-- What is left of the directive behind the name shows the placeholder type, which no parameter
has. -/
theorem broken_unfinished :
    let s : Scope := ⟨broken, {}⟩
    let e := Env.of s
    (∃ text, Namespace.ofText text = .ok broken) ∧
    (∀ n ∈ broken.names ++ broken.symbols ++ broken.homes ++ s.config.deps,
      Plain n.toList ∧ Finished n.toList) ∧
    ∃ g f site, generate? s {} = some g ∧
      emitted (itemsFrom e 0 {} broken.infos).1 = [(f, site)] ∧
      (functionBlock e f site).containsTodo = true ∧ todoType ∉ (Call.of e f site).hosts ∧
      g.stats = { functions := 1, unfinished := 1 } := by
  refine ⟨⟨_, ofText_render_broken⟩, by decide, ?_⟩
  have hsome : (generate? ⟨broken, {}⟩ {}).isSome := by
    rw [generate?_isSome_iff]
    intro cb hcb
    simp [broken] at hcb
  obtain ⟨g, hg⟩ := Option.isSome_iff_exists.mp hsome
  refine ⟨g, _, _, hg, rfl, by decide +kernel, by decide +kernel, ?_⟩
  rw [stats_of_generate hg]
  decide +kernel

end Introspect.Binding
