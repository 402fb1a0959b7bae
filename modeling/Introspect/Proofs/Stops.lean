import Introspect.Proofs.CallSites
import Introspect.Proofs.Imports
import Introspect.Proofs.Numbers

/-!
# The stops of the walk

The walk stops once for every symbol, and in a type that is not left out once more for each of its
methods. Where it stops is decided by the namespace alone, and so are the counters there: they have
gone up by the stops of their kind passed so far. At each stop the walk makes one item, and the file
has its blocks in the same order, behind three of its own. Only a callback can leave its block
empty, when it is bound as another one of its name is; with distinct names nothing is dropped.
-/

namespace Introspect.Binding

open Source (Step Block File)

/-- A place where the walk stops to write a block. -/
inductive Stop
  | function (f : Function) (index methodIndex : Nat)
      (owner : Option (ContainerKind × Introspect.Container))
  | callback (cb : Introspect.Callback)
  | container (kind : ContainerKind) (c : Introspect.Container)
  /-- A struct that only serves another type. -/
  | ignored (reason : String)
  | enumeration (e : Introspect.Enumeration) (isFlags : Bool)
  | constant (c : Introspect.Constant)
deriving Repr, DecidableEq

namespace Stop

/-- The function at a stop. -/
@[simp]
def function? : Stop → Option Function
  | .function f .. => some f
  | _ => none

/-- The stop takes the number of a call site. -/
@[simp]
def takesSite (st : Stop) : Bool := st.function?.isSome

/-- The stop takes the number of a runtime type. -/
@[simp]
def takesType : Stop → Bool
  | .container .. | .enumeration .. => true
  | _ => false

end Stop

/-- The stops for methods from position `i` on, in a type at position `index`. -/
def methodStops (kind : ContainerKind) (c : Introspect.Container) (index i : Nat)
    (fs : List Function) : List Stop :=
  (fs.zipIdx i).map fun (f, i) => .function f index i (some (kind, c))

/-- The stops for a symbol at position `index`. -/
def Info.stops (ns : Namespace) (index : Nat) : Info → List Stop
  | .function f => [.function f index 0 none]
  | .callback cb => [.callback cb]
  | .container kind c =>
      match ignoredReason? ⟨ns, {}⟩ c kind with
      | some reason => [.ignored reason]
      | none => .container kind c :: methodStops kind c index 0 c.methods
  | .enum e => [.enumeration e false]
  | .flags e => [.enumeration e true]
  | .constant c => [.constant c]

/-- The stops of some symbols, counted from an index. -/
def stopsFrom (ns : Namespace) (index : Nat) (infos : List Info) : List Stop :=
  (infos.zipIdx index).flatMap fun (info, i) => Info.stops ns i info

theorem methodStops_cons (kind : ContainerKind) (c : Introspect.Container) (index i : Nat)
    (f : Function) (fs : List Function) : methodStops kind c index i (f :: fs) =
      .function f index i (some (kind, c)) :: methodStops kind c index (i + 1) fs := rfl

theorem stopsFrom_cons (ns : Namespace) (index : Nat) (info : Info) (infos : List Info) :
    stopsFrom ns index (info :: infos) = Info.stops ns index info ++
    stopsFrom ns (index + 1) infos :=
  rfl

/-- All stops on the walk over a namespace, in their order. -/
def stops (ns : Namespace) : List Stop := stopsFrom ns 0 ns.infos

/-! ## Counters -/

/-- The counters behind some stops. -/
def Counters.past (n : Counters) (sts : List Stop) : Counters where
  function := n.function + .ofNat (sts.countP Stop.takesSite)
  getType := n.getType + .ofNat (sts.countP Stop.takesType)

namespace Counters

theorem past_nil (n : Counters) : n.past [] = n := by
  simp [past]

theorem past_singleton (n : Counters) (st : Stop) : n.past [st] =
    ⟨n.function + if st.takesSite then 1 else 0, n.getType + if st.takesType then 1 else 0⟩ := by
  rw [past, List.countP_singleton, List.countP_singleton]
  congr 2 <;> split <;> rfl

theorem past_append (n : Counters) (xs ys : List Stop) :
    n.past (xs ++ ys) = (n.past xs).past ys := by
  simp [past, List.countP_append, UInt32.ofNat_add, UInt32.add_assoc]

end Counters

/-! ## Items -/

/-- How a callback is bound: as the last one of its name, which is itself where no other has it. -/
def Env.binding (e : Env) (cb : Introspect.Callback) : CallbackKind :=
  (e.callback? cb.name).getD (CallbackKind.classify e.scope cb)

/-- The item that is made at a stop, the counters being at `n`. -/
def Stop.item (e : Env) (n : Counters) : Stop → Item
  | .function f index i owner => (functionItem e.scope f index i owner n).1
  | .callback cb => .callback cb (e.binding cb)
  | .container kind c => .container kind c (takeGetType e.scope c.name c.typeInit n).1
  | .ignored reason => .ignored reason
  | .enumeration en isFlags =>
      .enumeration en isFlags (takeGetType e.scope en.name en.typeInit n).1
  | .constant c => .constant c

/-- What is made of some stops, each with the counters there; before the first they are at `n`. -/
def atStops {β : Type} (f : Counters → Stop → β) (n : Counters) (sts : List Stop) : List β :=
  sts.mapIdx fun p st => f (n.past (sts.take p)) st

section
variable {β γ : Type} (f : Counters → Stop → β) (n : Counters)

theorem atStops_append (xs ys : List Stop) :
    atStops f n (xs ++ ys) = atStops f n xs ++ atStops f (n.past xs) ys := by
  unfold atStops
  rw [List.mapIdx_append]
  congr 1
  · refine List.ext_getElem (by simp) fun p hp _ => ?_
    rw [List.length_mapIdx] at hp
    rw [List.getElem_mapIdx, List.getElem_mapIdx, List.take_append_of_le_length (Nat.le_of_lt hp)]
  · refine List.ext_getElem (by simp) fun p hp _ => ?_
    rw [List.getElem_mapIdx, List.getElem_mapIdx, Nat.add_comm, List.take_length_add_append,
      Counters.past_append]

theorem atStops_singleton (st : Stop) : atStops f n [st] = [f n st] := by
  rw [atStops, List.mapIdx_cons, List.take_zero, Counters.past_nil]
  rfl

theorem atStops_cons (st : Stop) (sts : List Stop) :
    atStops f n (st :: sts) = f n st :: atStops f (n.past [st]) sts := by
  rw [← List.singleton_append, atStops_append, atStops_singleton, List.singleton_append]

theorem map_atStops (g : β → γ) (sts : List Stop) :
    (atStops f n sts).map g = atStops (fun n st => g (f n st)) n sts := by
  rw [atStops, List.mapIdx_eq_zipIdx_map, List.map_map, atStops, List.mapIdx_eq_zipIdx_map]
  rfl

theorem filterMap_atStops (g : β → Option γ) (sts : List Stop) :
    (atStops f n sts).filterMap g = (atStops (fun n st => g (f n st)) n sts).filterMap id := by
  rw [← map_atStops, List.filterMap_map]
  rfl

theorem length_atStops (sts : List Stop) : (atStops f n sts).length = sts.length :=
  List.length_mapIdx

theorem exists_of_mem_atStops {b : β} {sts : List Stop} (h : b ∈ atStops f n sts) :
    ∃ st ∈ sts, ∃ m, b = f m st := by
  obtain ⟨p, hp, rfl⟩ := List.mem_mapIdx.mp h
  exact ⟨_, List.getElem_mem hp, _, rfl⟩

end

theorem atStops_congr {β : Type} {f g : Counters → Stop → β} (h : ∀ n st, f n st = g n st)
    (n : Counters) (sts : List Stop) : atStops f n sts = atStops g n sts := by
  rw [funext₂ h]

theorem methodItems_eq {e : Env} {kind : ContainerKind} {c : Introspect.Container} {index : Nat}
    {fs : List Function} : ∀ {i : Nat} {n : Counters}, methodItems e.scope kind c index i n fs =
      (atStops (Stop.item e) n (methodStops kind c index i fs),
      n.past (methodStops kind c index i fs)) := by
  induction fs with
  | nil =>
      intro i n
      exact congrArg (Prod.mk []) n.past_nil.symm
  | cons f rest ih =>
      intro i n
      have hnext : (functionItem e.scope f index i (some (kind, c)) n).2 =
          n.past [.function f index i (some (kind, c))] := by
        simp [functionItem, Counters.past_singleton]
      rw [methodItems]
      dsimp only
      rw [ih, hnext, methodStops_cons, atStops_cons, ← Counters.past_append]
      rfl

/-- A symbol's items are those of its stops. -/
theorem infoItems_eq {e : Env} {info : Info} {index : Nat} {n : Counters}
    (hbound : ∀ cb, info = .callback cb → (e.callback? cb.name).isSome) :
    infoItems e index info n =
      (atStops (Stop.item e) n (Info.stops e.scope.space index info),
        n.past (Info.stops e.scope.space index info)) := by
  unfold infoItems Info.stops
  cases info with
  | function f => simp [functionItem, atStops_singleton, Stop.item, Counters.past_singleton]
  | callback cb =>
      obtain ⟨kind, hkind⟩ := Option.isSome_iff_exists.mp (hbound cb rfl)
      simp [hkind, atStops_singleton, Stop.item, Env.binding, Counters.past_singleton]
  | container kind c =>
      have hspace : ignoredReason? ⟨e.scope.space, {}⟩ c kind = ignoredReason? e.scope c kind := rfl
      have hnext : (takeGetType e.scope c.name c.typeInit n).2 = n.past [.container kind c] := by
        simp [takeGetType, Counters.past_singleton]
      dsimp only
      rw [hspace]
      cases ignoredReason? e.scope c kind with
      | some reason => simp [atStops_singleton, Stop.item, Counters.past_singleton]
      | none =>
          dsimp only
          rw [hnext, methodItems_eq, atStops_cons, ← Counters.past_append]
          rfl
  | enum en | flags en =>
      simp [takeGetType, atStops_singleton, Stop.item, Counters.past_singleton]
  | constant c => simp [atStops_singleton, Stop.item, Counters.past_singleton]

theorem itemsFrom_eq {e : Env} {infos : List Info}
    (hbound : ∀ cb, .callback cb ∈ infos → (e.callback? cb.name).isSome) :
    ∀ {index : Nat} {n : Counters}, itemsFrom e index n infos =
      (atStops (Stop.item e) n (stopsFrom e.scope.space index infos),
        n.past (stopsFrom e.scope.space index infos)) := by
  induction infos with
  | nil =>
      intro index n
      exact congrArg (Prod.mk []) n.past_nil.symm
  | cons info rest ih =>
      intro index n
      have hhere : ∀ cb, info = .callback cb → (e.callback? cb.name).isSome := fun cb heq =>
        hbound cb (List.mem_cons.mpr (.inl heq.symm))
      rw [itemsFrom, infoItems_eq hhere]
      dsimp only
      rw [ih fun cb hcb => hbound cb (List.mem_cons_of_mem _ hcb), stopsFrom_cons, atStops_append,
        Counters.past_append]

theorem isSome_callback? {s : Scope} {cb : Introspect.Callback} (h : .callback cb ∈ s.space.infos) :
    ((Env.of s).callback? cb.name).isSome := by
  refine List.lookup_isSome_iff.mpr ⟨(cb.name, CallbackKind.classify s cb), ?_, beq_self_eq_true _⟩
  rw [Env.of, List.mem_reverse, List.mem_filterMap]
  exact ⟨_, h, rfl⟩

/-- The walk over a namespace makes one item at each of its stops. -/
theorem walk_eq (s : Scope) (start : Counters) :
    itemsFrom (Env.of s) 0 start s.space.infos =
      (atStops (Stop.item (Env.of s)) start (stops s.space), start.past (stops s.space)) :=
  itemsFrom_eq fun _ => isSome_callback?

/-! ## What is counted -/

theorem functions_methodStops (kind : ContainerKind) (c : Introspect.Container) (index : Nat)
    (fs : List Function) : ∀ i, (methodStops kind c index i fs).filterMap Stop.function? = fs := by
  induction fs with
  | nil => exact fun _ => rfl
  | cons f rest ih =>
      intro i
      rw [methodStops_cons]
      exact congrArg (f :: ·) (ih (i + 1))

theorem functions_infoStops (ns : Namespace) (index : Nat) (info : Info) :
    (Info.stops ns index info).filterMap Stop.function? = info.functions := by
  cases info with
  | container kind c =>
      rw [Info.stops]
      cases hreason : ignoredReason? ⟨ns, {}⟩ c kind with
      | some reason =>
          have hserves : Info.Serves ⟨ns, {}⟩ (.container kind c) :=
            isSome_ignoredReason?_iff.mp (Option.isSome_of_eq_some hreason)
          exact hserves.2.1.symm
      | none => exact functions_methodStops kind c index c.methods 0
  | function f | callback cb | enum en | flags en | constant c => rfl

/-- The walk stops at every function and method once, in their order. -/
theorem functions_stops (ns : Namespace) :
    (stops ns).filterMap Stop.function? = ns.infos.flatMap Info.functions := by
  have hfrom : ∀ (infos : List Info) (index : Nat),
      (stopsFrom ns index infos).filterMap Stop.function? = infos.flatMap Info.functions := by
    intro infos
    induction infos with
    | nil => exact fun _ => rfl
    | cons info rest ih =>
        intro index
        rw [stopsFrom_cons, List.filterMap_append, functions_infoStops, ih, List.flatMap_cons]
  exact hfrom ns.infos 0

theorem countP_takesSite (sts : List Stop) :
    sts.countP Stop.takesSite = (sts.filterMap Stop.function?).length :=
  List.length_filterMap_eq_countP.symm

theorem countP_takesType_methodStops (kind : ContainerKind) (c : Introspect.Container)
    (index i : Nat) (fs : List Function) :
    (methodStops kind c index i fs).countP Stop.takesType = 0 := by
  rw [List.countP_eq_zero, methodStops, List.forall_mem_map]
  exact fun _ _ => Bool.false_ne_true

theorem countP_takesType_stops (s : Scope) :
    (stops s.space).countP Stop.takesType = s.space.infos.countP (takesType s) := by
  have hinfo : ∀ index info, (Info.stops s.space index info).countP Stop.takesType =
      (takesType s info).toNat := by
    intro index info
    cases info with
    | container kind c =>
        have hspace : ignoredReason? ⟨s.space, {}⟩ c kind = ignoredReason? s c kind := rfl
        rw [Info.stops, takesType, hspace]
        cases ignoredReason? s c kind with
        | some reason => rfl
        | none =>
            dsimp only
            rw [List.countP_cons, countP_takesType_methodStops]
            rfl
    | function f | callback cb | enum en | flags en | constant c => rfl
  have hfrom : ∀ (infos : List Info) (index : Nat),
      (stopsFrom s.space index infos).countP Stop.takesType = infos.countP (takesType s) := by
    intro infos
    induction infos with
    | nil => exact fun _ => rfl
    | cons info rest ih =>
        intro index
        rw [stopsFrom_cons, List.countP_append, hinfo, ih, List.countP_cons, Nat.add_comm]
        cases takesType s info <;> rfl
  exact hfrom s.space.infos 0

namespace Counters

theorem toNat_past_function {n : Counters} {sts : List Stop}
    (h : n.function.toNat + sts.countP Stop.takesSite < 2 ^ 32) :
    (n.past sts).function.toNat = n.function.toNat + sts.countP Stop.takesSite := by
  rw [past, UInt32.toNat_add, UInt32.toNat_ofNat', Nat.add_mod_mod, Nat.mod_eq_of_lt h]

theorem toNat_past_getType {n : Counters} {sts : List Stop}
    (h : n.getType.toNat + sts.countP Stop.takesType < 2 ^ 32) :
    (n.past sts).getType.toNat = n.getType.toNat + sts.countP Stop.takesType := by
  rw [past, UInt32.toNat_add, UInt32.toNat_ofNat', Nat.add_mod_mod, Nat.mod_eq_of_lt h]

end Counters

/-! ## Blocks -/

/-- The block that is written at a stop. -/
def Stop.block (e : Env) (n : Counters) (st : Stop) : Block :=
  .ofSteps (((st.item e n).steps? e).getD [])

/-- Only a callback can leave its block empty. -/
theorem isEmpty_block {st : Stop} (h : ∀ cb, st ≠ .callback cb) (e : Env) (n : Counters) :
    (st.block e n).isEmpty = false := by
  refine Block.isEmpty_ofSteps ?_
  cases st with
  | function f index i owner =>
      unfold Stop.item functionItem
      dsimp only
      split
      · exact List.cons_ne_nil _ _
      · exact steps_ne_nil _
  | callback cb => exact absurd rfl (h cb)
  | container kind c => simp [Stop.item, Item.steps?, Container.steps]
  | ignored reason => exact List.cons_ne_nil _ _
  | enumeration en isFlags => simp [Stop.item, Item.steps?, Enumeration.steps]
  | constant c =>
      rw [Stop.item, Item.steps?, Constant.steps]
      split <;> exact List.cons_ne_nil _ _

/-- The blocks that every file starts with. -/
def front (s : Scope) (start : Counters) : List Block :=
  [.ofSteps (contextSteps s),
    .ofSteps (initSteps s
      ((atStops (Stop.item (Env.of s)) start (stops s.space)).filterMap Item.wrapped?)),
    .ofSteps destroyNotifySteps]

theorem filter_front (s : Scope) (start : Counters) :
    (front s start).filter (!·.isEmpty) = front s start := by
  rw [List.filter_eq_self]
  intro b hb
  have hempty : ∀ {steps : List Step}, steps ≠ [] → (!(Block.ofSteps steps).isEmpty) = true := by
    intro steps h
    rw [Block.isEmpty_ofSteps h]
    rfl
  simp only [front, List.mem_cons, List.not_mem_nil, or_false] at hb
  rcases hb with rfl | rfl | rfl <;> exact hempty (List.cons_ne_nil _ _)

theorem filterMap_eq_map_getD {α β : Type} {f : α → Option β} {xs : List α} (default : β)
    (h : ∀ x ∈ xs, (f x).isSome) : xs.filterMap f = xs.map fun x => (f x).getD default := by
  rw [← List.filterMap_eq_map]
  refine List.filterMap_congr fun x hx => ?_
  obtain ⟨y, hy⟩ := Option.isSome_iff_exists.mp (h x hx)
  rw [Function.comp_apply, hy, Option.getD_some]

/-- A file has its front, and then the blocks of all stops but the empty ones. -/
theorem blocks_of_generate {s : Scope} {start : Counters} {g : Generated}
    (hg : generate? s start = some g) : g.file.blocks =
      front s start ++
        (atStops (Stop.block (Env.of s)) start (stops s.space)).filter (!·.isEmpty) := by
  have hsome := isSome_generate?_iff.mp (Option.isSome_of_eq_some hg)
  rw [walk_eq] at hsome
  rw [file_of_generate hg, blocks_foldl_push, List.nil_append, groups, walk_eq]
  dsimp only
  rw [filterMap_eq_map_getD [] hsome, List.map_append, List.filter_append]
  refine congrArg₂ _ (filter_front s start) ?_
  rw [List.map_map, map_atStops]
  rfl

/-! ## Callbacks of distinct names -/

/-- The callback that a symbol declares. -/
def Info.callback? : Info → Option Introspect.Callback
  | .callback cb => some cb
  | _ => none

/-- The callbacks of a namespace. -/
def callbacks (ns : Namespace) : List Introspect.Callback := ns.infos.filterMap Info.callback?

theorem mem_callbacks {ns : Namespace} {cb : Introspect.Callback} :
    cb ∈ callbacks ns ↔ .callback cb ∈ ns.infos := by
  rw [callbacks, List.mem_filterMap]
  constructor
  · rintro ⟨info, hinfo, h⟩
    cases info <;> cases h
    exact hinfo
  · intro h
    exact ⟨_, h, rfl⟩

theorem callback_of_mem_stops {ns : Namespace} {cb : Introspect.Callback}
    (h : .callback cb ∈ stops ns) : .callback cb ∈ ns.infos := by
  obtain ⟨⟨info, index⟩, hinfo, hst⟩ := List.mem_flatMap.mp h
  have hmem : info ∈ ns.infos := by
    rw [show info = _ from List.fst_eq_of_mem_zipIdx hinfo]
    exact List.getElem_mem _
  cases info with
  | callback cb' =>
      cases List.mem_singleton.mp hst
      exact hmem
  | container kind c =>
      dsimp only [Info.stops] at hst
      split at hst
      · cases List.mem_singleton.mp hst
      · rcases List.mem_cons.mp hst with h | h
        · cases h
        · obtain ⟨x, -, hx⟩ := List.mem_map.mp h
          cases hx
  | function f | enum en | flags en | constant c => cases List.mem_singleton.mp hst

section
variable {s : Scope}

theorem eq_of_name_eq (h : ((callbacks s.space).map (·.name)).Nodup)
    {cb cb' : Introspect.Callback} (hcb : .callback cb ∈ s.space.infos)
    (hcb' : .callback cb' ∈ s.space.infos) (hname : cb.name = cb'.name) : cb = cb' :=
  List.inj_on_of_nodup_map h (mem_callbacks.mpr hcb) (mem_callbacks.mpr hcb') hname

/-- A callback whose name no other one has is bound as itself. -/
theorem binding_eq (h : ((callbacks s.space).map (·.name)).Nodup) {cb : Introspect.Callback}
    (hcb : .callback cb ∈ s.space.infos) :
    (Env.of s).binding cb = CallbackKind.classify s cb := by
  obtain ⟨kind, hkind⟩ := Option.isSome_iff_exists.mp (isSome_callback? hcb)
  obtain ⟨cb', hcb', hname, rfl⟩ := exists_callback_of_callback? hkind
  rw [Env.binding, hkind, eq_of_name_eq h hcb hcb' hname.symm]
  rfl

/-- A callback bound as itself has a block. -/
theorem callbackSteps_ne_nil (s : Scope) (cb : Introspect.Callback) :
    (Callback.steps? s cb (CallbackKind.classify s cb)).getD [] ≠ [] := by
  have hdata := Callback.isSome_steps?_iff.mpr (CallbackKind.hasData_classify s cb)
  revert hdata
  -- Only a callback without a native signature could leave its block empty.
  cases ht : Trampoline.of s cb with
  | error reason => simp [CallbackKind.classify, ht, Callback.steps?, Callback.placeholderSteps]
  | ok read =>
      cases CallbackKind.classify s cb with
      | manual => simp [Callback.steps?, ht, Callback.manualSteps]
      | unsupported reason => simp [Callback.steps?, Callback.placeholderSteps]
      | closure u =>
          rw [Callback.steps?]
          cases hb : ClosureBinding.of s cb u with
          | ok b => simp [ClosureBinding.steps]
          | error fault =>
              cases fault with
              | misplaced => simp
              | unmapped =>
                  rw [ClosureBinding.of, ht] at hb
                  dsimp only at hb
                  split at hb <;> cases hb

/-- With distinct names every stop has a block. -/
theorem isEmpty_block_of_distinct (h : ((callbacks s.space).map (·.name)).Nodup) {st : Stop}
    (hst : st ∈ stops s.space) (n : Counters) : (st.block (Env.of s) n).isEmpty = false := by
  by_cases hcallback : ∃ cb, st = .callback cb
  · obtain ⟨cb, rfl⟩ := hcallback
    refine Block.isEmpty_ofSteps ?_
    rw [Stop.item, Item.steps?, binding_eq h (callback_of_mem_stops hst)]
    exact callbackSteps_ne_nil s cb
  · exact isEmpty_block (fun cb hcb => hcallback ⟨cb, hcb⟩) _ n

end

/-! ## The whole walk -/

/-- The block of a function that is left out. -/
def blackBlock (name : String) : Block := .ofSteps [.line ("// black function " ++ name)]

theorem Stop.block_function (e : Env) (n : Counters) (f : Function) (index i : Nat)
    (owner : Option (ContainerKind × Introspect.Container)) :
    (Stop.function f index i owner).block e n =
      if e.scope.config.isBlack (identity f (owner.map Prod.snd)) then
        blackBlock (identity f (owner.map Prod.snd))
      else functionBlock e f ⟨n.function, index, i, owner⟩ := by
  unfold Stop.block Stop.item functionItem
  dsimp only
  split <;> rfl

theorem getElem?_atStops {β : Type} (f : Counters → Stop → β) (n : Counters)
    (before after : List Stop) (st : Stop) :
    (atStops f n (before ++ st :: after))[before.length]? = some (f (n.past before) st) := by
  rw [atStops_append, atStops_cons, List.getElem?_append_right (Nat.le_of_eq (length_atStops ..)),
    length_atStops, Nat.sub_self, List.getElem?_cons_zero]

/-- What is written for a namespace is whole: nothing is lost, and nothing comes twice. -/
structure Generated.Complete (s : Scope) (start : Counters) (g : Generated) : Prop where
  /-- Behind the front there is one block for each stop of the walk. -/
  blocks : g.file.blocks =
    front s start ++ atStops (Stop.block (Env.of s)) start (stops s.space)
  /-- The walk stops at the functions and methods of the namespace, in their order. -/
  functions : (stops s.space).filterMap Stop.function? = s.space.infos.flatMap Info.functions
  /-- A function's number counts the functions before it, whether it is left out or not. -/
  sites : ∀ before f index i owner after,
    stops s.space = before ++ .function f index i owner :: after →
      ∃ id : UInt32, id.toNat = start.function.toNat + before.countP Stop.takesSite ∧
        g.file.blocks[3 + before.length]? =
          some (if s.config.isBlack (identity f (owner.map Prod.snd)) then
              blackBlock (identity f (owner.map Prod.snd))
            else functionBlock (Env.of s) f ⟨id, index, i, owner⟩)
  /-- Functions that are left out are not counted. -/
  stats : g.stats.functions = (s.space.infos.flatMap (Info.bound s)).length
  nextFunction : g.next.function.toNat =
    start.function.toNat + (s.space.infos.flatMap Info.functions).length
  nextGetType : g.next.getType.toNat =
    start.getType.toNat + s.space.infos.countP (takesType s)

/-- Where no two callbacks have one name and the counters do not wrap, a namespace is written, and
what is written is whole. -/
theorem complete_of_distinct {s : Scope} {start : Counters}
    (hcallbacks : ((callbacks s.space).map (·.name)).Nodup)
    (hsites : start.function.toNat + (s.space.infos.flatMap Info.functions).length < 2 ^ 32)
    (htypes : start.getType.toNat + s.space.infos.countP (takesType s) < 2 ^ 32) :
    ∃ g, generate? s start = some g ∧ g.Complete s start := by
  obtain ⟨g, hg⟩ := Option.isSome_iff_exists.mp
    (isSome_generate?_of_nodup start fun _ _ => eq_of_name_eq hcallbacks)
  have hcount : (stops s.space).countP Stop.takesSite =
      (s.space.infos.flatMap Info.functions).length := by
    rw [countP_takesSite, functions_stops]
  have hnext : g.next = start.past (stops s.space) := by
    rw [next_of_generate? hg, walk_eq]
  have hblocks : g.file.blocks =
      front s start ++ atStops (Stop.block (Env.of s)) start (stops s.space) := by
    rw [blocks_of_generate hg]
    refine congrArg _ (List.filter_eq_self.mpr fun b hb => ?_)
    obtain ⟨st, hst, n, rfl⟩ := exists_of_mem_atStops _ _ hb
    rw [isEmpty_block_of_distinct hcallbacks hst]
    rfl
  refine ⟨g, hg, hblocks, functions_stops s.space, ?_, ?_, ?_, ?_⟩
  · intro before f index i owner after hstops
    refine ⟨(start.past before).function, Counters.toNat_past_function ?_, ?_⟩
    · have hle : before.countP Stop.takesSite ≤ (stops s.space).countP Stop.takesSite := by
        rw [hstops, List.countP_append]
        exact Nat.le_add_right _ _
      omega
    · rw [hblocks, hstops, List.getElem?_append_right (Nat.le_add_right 3 _)]
      rw [show 3 + before.length - (front s start).length = before.length from
        Nat.add_sub_cancel_left 3 _, getElem?_atStops, Stop.block_function]
      rfl
  · have hbound := @placed_itemsFrom (Env.of s) s.space.infos 0 start
    rw [stats_of_generate hg, show s.space.infos.flatMap (Info.bound s) = _ from hbound.symm,
      List.length_map]
  · rw [hnext, Counters.toNat_past_function (by omega), hcount]
  · rw [hnext, Counters.toNat_past_getType (by rw [countP_takesType_stops]; exact htypes),
      countP_takesType_stops]

/-- A walk over every kind of symbol, with a method that is left out. -/
theorem complete_sample :
    let s : Scope := ⟨sampleNamespace, { black := ["Thing.turn \"\\\n\x01"] }⟩
    ∃ g, generate? s ⟨10, 3⟩ = some g ∧ g.Complete s ⟨10, 3⟩ :=
  complete_of_distinct (by decide) (by decide) (by decide)

end Introspect.Binding
