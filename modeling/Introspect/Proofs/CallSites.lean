import Introspect.Binding.Function
import Introspect.Native.Cache
import Introspect.Proofs.Layout
import Introspect.Proofs.Lines
import Introspect.Proofs.Walk
import Mathlib.Algebra.Group.Nat.Defs

/-!
# Call sites reach their functions

A generated function asks for its invoker by the number of its call site, two names and two
positions. In a repository that holds the namespace the code was generated from, the positions are
right: each is tried first, and is confirmed by the name and the kind that go with it. So a lookup
that has to search finds the very function the call site was made for, whatever else has its name.

A cache changes nothing of this. What it keeps under a number was found by the lookup with that
number, and the walk gives no two functions one number. This is the invariant, `Cached`; a lookup
keeps it, and so does every sequence of lookups.
-/

namespace Introspect

/-- The invoker of a described function, or why there is none. -/
def Resolver.invoker (r : Resolver) (f : Function) : Except CallFailure Invoker := do
  let address ← (r.resolve f.symbol).mapError .load
  Invoker.prepare f address

/-! ## Searching -/

namespace InvokerCache

theorem run_findOuter {r : MemoryRepository} {home : String} {l : Lookup} {ns : Namespace}
    {info : Info} (q : Queries) (hns : r.namespaceNamed? home = some ns)
    (hinfo : ns.infos[l.outerIndex]? = some info) (hname : info.name = l.outer)
    (hkind : info.kind = l.kind) :
    (findOuter r.repository home l).run q =
      (.ok (.top info), { q with lookups := q.lookups + 1 }) := by
  simp [findOuter, Repository.askAt?, Asking.count, MemoryRepository.repository,
    MemoryRepository.infoAt?, hns, hinfo, Entry.name, Entry.kind, hname, hkind]
  rfl

theorem run_findInner (r : MemoryRepository) {e : Entry} {l : Lookup} {c : Container} {f : Function}
    (q : Queries) (hc : e.container? = some c) (hf : c.methods[l.innerIndex]? = some f)
    (hname : f.name = l.inner) :
    (findInner r.repository e l).run q =
      (some (.method f), { q with lookups := q.lookups + 1 }) := by
  simp [findInner, Repository.askMethodAt?, Asking.count, MemoryRepository.repository,
    Entry.methodAt?, hc, hf, Entry.name, hname]
  rfl

theorem run_resolve_function {ε : Type} {r : Repository ε} {home : String} {l : Lookup} {e : ε}
    {q q' : Queries} (houter : (findOuter r home l).run q = (.ok e, q'))
    (hkind : l.kind = .function) :
    (resolve r home l).run q = (r.prepare e, q') := by
  rw [resolve, StateT.run_bind, houter, hkind]
  rfl

theorem run_resolve_method {ε : Type} {r : Repository ε} {home : String} {l : Lookup} {e m : ε}
    {kind : ContainerKind} {q q' q'' : Queries}
    (houter : (findOuter r home l).run q = (.ok e, q')) (hkind : l.kind = kind.symbolKind)
    (hinner : (findInner r e l).run q' = (some m, q'')) :
    (resolve r home l).run q = (r.prepare m, q'') := by
  have hbind : ∀ next : Option ε → Asking (Except CallFailure Invoker),
      (findInner r e l >>= next).run q' = (next (some m)).run q'' := by
    intro next
    rw [StateT.run_bind, hinner]
    rfl
  rw [resolve, StateT.run_bind, houter, hkind]
  cases kind <;> exact hbind _

end InvokerCache

theorem Entry.prepare_of_function {e : Entry} {f : Function} (r : Resolver)
    (h : e.function? = some f) : e.prepare r = r.invoker f := by
  rw [Entry.prepare, h]
  rfl

namespace Binding

/-- What a call site says of its function. -/
theorem Call.lookup_of (e : Env) (f : Function) (site : Site) :
    (Call.of e f site).lookup =
      match site.container with
      | some (kind, container) =>
          { id := site.id, outer := container.name, inner := f.name, outerIndex := site.index
            innerIndex := site.methodIndex, kind := kind.symbolKind
            directQuery := !e.scope.config.skipsCallFind container.name }
      | none =>
          { id := site.id, outer := f.name, outerIndex := site.index
            innerIndex := site.methodIndex, kind := .function } := by
  cases hc : site.container with
  | none =>
      simp only [Call.lookup, Call.analysis_of, Analysis.of_site, Analysis.of_function, hc]
  | some c =>
      simp only [Call.lookup, Call.analysis_of, Analysis.of_site, Analysis.of_function,
        Analysis.of_env, hc]

theorem Call.id_lookup (e : Env) (f : Function) (site : Site) :
    (Call.of e f site).lookup.id = site.id := by
  rw [Call.lookup_of]
  split <;> rfl

/-- A call site that points to its function finds it. -/
theorem run_resolve {r : MemoryRepository} {home : String} {ns : Namespace} {e : Env} {f : Function}
    {site : Site} (q : Queries) (hns : r.namespaceNamed? home = some ns)
    (hsite : site.PointsTo ns.infos f) :
    ∃ q', (InvokerCache.resolve r.repository home (Call.of e f site).lookup).run q =
      (r.resolver.invoker f, q') := by
  rw [Call.lookup_of]
  unfold Site.PointsTo at hsite
  cases hc : site.container with
  | none =>
      rw [hc] at hsite
      have houter := InvokerCache.run_findOuter (l := ⟨site.id, f.name, "", site.index,
        site.methodIndex, .function, true⟩) q hns hsite rfl rfl
      rw [← Entry.prepare_of_function (e := .top (.function f)) r.resolver rfl]
      exact ⟨_, InvokerCache.run_resolve_function houter rfl⟩
  | some kc =>
      obtain ⟨kind, c⟩ := kc
      rw [hc] at hsite
      obtain ⟨hinfo, hmethod⟩ := hsite
      have houter := InvokerCache.run_findOuter (l := ⟨site.id, c.name, f.name, site.index,
        site.methodIndex, kind.symbolKind, !e.scope.config.skipsCallFind c.name⟩) q hns
        hinfo rfl rfl
      have hinner := InvokerCache.run_findInner r (e := .top (.container kind c))
        (l := ⟨site.id, c.name, f.name, site.index, site.methodIndex, kind.symbolKind,
        !e.scope.config.skipsCallFind c.name⟩) { q with lookups := q.lookups + 1 } rfl hmethod rfl
      rw [← Entry.prepare_of_function (e := .method f) r.resolver rfl]
      exact ⟨_, InvokerCache.run_resolve_method houter rfl hinner⟩

end Binding

/-! ## Sequences of lookups -/

namespace InvokerCache

/-- Lookups made one after another on one cache, with what each of them returned. -/
def getAll {ε : Type} (c : InvokerCache) (r : Repository ε) :
    List Lookup → Asking (List (Except CallFailure Invoker) × InvokerCache)
  | [] => return ([], c)
  | l :: rest => do
      let (answer, c) ← c.get r l
      let (answers, c) ← getAll c r rest
      return (answer :: answers, c)

/-- What is kept under the number of a call site is the invoker of its function. -/
def Cached (r : MemoryRepository) (sites : List (Function × Binding.Site))
    (c : InvokerCache) : Prop :=
  ∀ call ∈ sites, ∀ iv, c.invokers.lookup call.2.id = some iv → r.resolver.invoker call.1 = .ok iv

variable {r : MemoryRepository} {ns : Namespace} {e : Binding.Env}
  {sites : List (Function × Binding.Site)}

/-- One lookup returns the invoker of its function, and keeps the invariant. -/
theorem run_get {c : InvokerCache} {call : Function × Binding.Site} (q : Queries)
    (hns : r.namespaceNamed? c.home = some ns)
    (hpoints : ∀ call ∈ sites, call.2.PointsTo ns.infos call.1)
    (hids : ∀ a ∈ sites, ∀ b ∈ sites, a.2.id = b.2.id → a = b) (hcall : call ∈ sites)
    (hc : Cached r sites c) :
    ∃ c' q', (c.get r.repository (Binding.Call.of e call.1 call.2).lookup).run q =
      ((r.resolver.invoker call.1, c'), q') ∧ c'.home = c.home ∧ Cached r sites c' := by
  have hid := Binding.Call.id_lookup e call.1 call.2
  obtain ⟨q', hresolve⟩ := Binding.run_resolve (e := e) q hns (hpoints call hcall)
  unfold get getIn
  rw [hid]
  cases hkept : c.invokers.lookup call.2.id with
  | some iv => exact ⟨c, q, by rw [hc call hcall iv hkept]; rfl, rfl, hc⟩
  | none =>
      dsimp only
      rw [StateT.run_bind, hresolve]
      cases hiv : r.resolver.invoker call.1 with
      | error f => exact ⟨c, q', rfl, rfl, hc⟩
      | ok iv =>
          refine ⟨{ c with invokers := (call.2.id, iv) :: c.invokers }, q', rfl, rfl, ?_⟩
          -- A function with the number just kept is the one just asked for.
          intro other hother iv' hlookup
          rw [List.lookup_cons] at hlookup
          split at hlookup
          · next heq =>
              cases hlookup
              rw [hids other hother call hcall (by simpa using heq)]
              exact hiv
          · exact hc other hother iv' hlookup

/-- So does every lookup of a sequence. -/
theorem run_getAll (hpoints : ∀ call ∈ sites, call.2.PointsTo ns.infos call.1)
    (hids : ∀ a ∈ sites, ∀ b ∈ sites, a.2.id = b.2.id → a = b) :
    ∀ {calls : List (Function × Binding.Site)} {c : InvokerCache} (q : Queries),
      r.namespaceNamed? c.home = some ns → (∀ call ∈ calls, call ∈ sites) → Cached r sites c →
        ∃ c' q', (c.getAll r.repository (calls.map fun call =>
        (Binding.Call.of e call.1 call.2).lookup)).run q =
          ((calls.map fun call => r.resolver.invoker call.1, c'), q') := by
  intro calls
  induction calls with
  | nil => intro c q _ _ _; exact ⟨c, q, rfl⟩
  | cons call rest ih =>
      intro c q hns hcalls hc
      rw [List.forall_mem_cons] at hcalls
      obtain ⟨c', q', hget, hhome, hc'⟩ := run_get (e := e) q hns hpoints hids hcalls.1 hc
      rw [← hhome] at hns
      obtain ⟨c'', q'', hrest⟩ := ih q' hns hcalls.2 hc'
      refine ⟨c'', q'', ?_⟩
      rw [List.map_cons, List.map_cons, getAll, StateT.run_bind, hget]
      show StateT.run _ q' = _
      rw [StateT.run_bind, hrest]
      rfl

end InvokerCache

namespace Binding

open Source (Plain Step Block strip)

/-! ## The text of a call site -/

theorem Lookup.plain_text {l : Lookup} (houter : Plain l.outer.toList)
    (hinner : Plain l.inner.toList) :
    Plain (Lookup.text l).toList := by
  show Plain ("CONTEXT.invoker" ++ tuple [toString l.id, Text.quoted l.outer, Text.quoted l.inner,
    toString l.outerIndex, toString l.innerIndex, "gi::InfoType::" ++ l.kind.label,
    if l.directQuery then "gi::FindMethodFlags::NONE"
    else "gi::FindMethodFlags::NO_CALL_FIND"]).toList
  rw [String.toList_append]
  refine .append_of_no_slash (by decide) (plain_tuple ?_)
  intro t ht
  simp only [List.mem_cons, List.not_mem_nil, or_false] at ht
  rcases ht with rfl | rfl | rfl | rfl | rfl | rfl | rfl
  · exact .of_no_slash (Text.no_slash_of_number _)
  · exact Text.plain_quoted houter
  · exact Text.plain_quoted hinner
  · exact .of_no_slash (Text.no_slash_of_number _)
  · exact .of_no_slash (Text.no_slash_of_number _)
  · cases l.kind <;> decide
  · split <;> decide

theorem no_slash_of_invokerVar (e : Env) (f : Function) (site : Site) :
    '/' ∉ (Analysis.of e f site).1.invokerVar.toList := by
  obtain ⟨d, r, h, heq⟩ := Analysis.of_eq e f site
  rw [heq]
  exact Naming.Locals.no_slash_alloc (by decide)

/-- A line of the way to the invoker is the lookup between two texts that open no comment. -/
theorem exists_lookup_step (e : Env) (f : Function) (site : Site) :
    ∃ st ∈ (Call.of e f site).lookupSteps, ∃ before after : String,
      st.text = before ++ Lookup.text (Call.of e f site).lookup ++ after ∧
        '/' ∉ before.toList ∧ '/' ∉ after.toList ∧ after.toList.head? ≠ some '*' := by
  have hpattern : '/' ∉ ("let " ++ tuple [if (Call.of e f site).needsContext then "ctx" else "_",
      (Call.of e f site).analysis.invokerVar] ++ " = ").toList := by
    have hvar := no_slash_of_invokerVar e f site
    rw [← Call.analysis_of] at hvar
    simp only [tuple, String.intercalate_cons_cons, String.intercalate_singleton,
      String.toList_append, List.mem_append, not_or]
    refine ⟨⟨by decide, ⟨⟨by decide, ?_⟩, by decide⟩⟩, by decide⟩
    refine ⟨⟨?_, by decide⟩, hvar⟩
    split <;> decide
  unfold Call.lookupSteps
  dsimp only
  split
  · exact ⟨_, List.mem_singleton_self _, _, "?;", rfl, hpattern, by decide, by decide⟩
  · refine ⟨_, List.mem_cons_self, _, " \x7b", rfl, ?_, by decide, by decide⟩
    rw [String.toList_append, List.mem_append, not_or]
    exact ⟨hpattern, by decide⟩

/-- No comment opens in the names of the symbols and their functions. -/
def PlainNames (infos : List Info) : Prop :=
  ∀ info ∈ infos, Plain info.name.toList ∧ ∀ f ∈ info.functions, Plain f.name.toList

theorem plain_lookup {infos : List Info} {f : Function} {site : Site} (e : Env)
    (hnames : PlainNames infos) (hsite : site.PointsTo infos f) :
    Plain (Call.of e f site).lookup.outer.toList ∧
      Plain (Call.of e f site).lookup.inner.toList := by
  rw [Call.lookup_of]
  unfold Site.PointsTo at hsite
  cases hc : site.container with
  | none =>
      rw [hc] at hsite
      have hinner : Plain "".toList := by decide
      exact ⟨(hnames _ (List.mem_of_getElem? hsite)).1, hinner⟩
  | some kc =>
      rw [hc] at hsite
      obtain ⟨hname, hmethods⟩ := hnames _ (List.mem_of_getElem? hsite.1)
      exact ⟨hname, hmethods _ (List.mem_of_getElem? hsite.2)⟩

/-- The block of a function shows its lookup as it is made. -/
theorem exists_lookup_line {infos : List Info} {f : Function} {site : Site} (e : Env)
    (hnames : PlainNames infos) (hsite : site.PointsTo infos f) :
    ∃ line ∈ (functionBlock e f site).lines,
      (Lookup.text (Call.of e f site).lookup).toList <:+: line.toList := by
  obtain ⟨st, hst, before, after, htext, hbefore, hafter, hhead⟩ := exists_lookup_step e f site
  obtain ⟨houter, hinner⟩ := plain_lookup e hnames hsite
  have hplain : Plain st.text.toList := by
    rw [htext, String.toList_append, String.toList_append, List.append_assoc]
    exact .append_of_no_slash hbefore
      ((Lookup.plain_text houter hinner).append (.of_no_slash hafter) hhead)
  have hmem : st ∈ (Call.of e f site).steps := by
    unfold Call.steps
    dsimp only
    split <;> simp [hst]
  obtain ⟨k, hk⟩ := Block.exists_line_of_mem hmem
  rw [Source.strip_of_plain hplain] at hk
  refine ⟨_, hk, .trans ?_ (Block.toList_infix_indented k _)⟩
  rw [htext, String.toList_append, String.toList_append]
  exact ⟨before.toList, after.toList, rfl⟩

/-! ## Reaching functions -/

/-- In a repository of the namespace the bindings were generated from, every lookup of a generated
function returns the invoker of the function it was generated from, or what stands against it: after
any lookups, in any order, and whatever other symbols have its names. -/
theorem lookups_reach {s : Scope} {start : Counters} {g : Generated}
    (hg : generate? s start = some g)
    (hwrap : start.function.toNat + (s.space.infos.flatMap Info.functions).length < 2 ^ 32)
    (resolver : Resolver) (q : Queries) :
    (∀ call ∈ emitted (itemsFrom (Env.of s) 0 start s.space.infos).1,
      functionBlock (Env.of s) call.1 call.2 ∈ g.file.blocks ∧
        (PlainNames s.space.infos → ∃ line ∈ (functionBlock (Env.of s) call.1 call.2).lines,
          (Lookup.text (Call.of (Env.of s) call.1 call.2).lookup).toList <:+: line.toList)) ∧
      ∀ calls : List (Function × Site),
        (∀ call ∈ calls, call ∈ emitted (itemsFrom (Env.of s) 0 start s.space.infos).1) →
          ((InvokerCache.getAll { home := s.space.name }
            (({ resolver } : MemoryRepository).add s.space).repository
            (calls.map fun call => (Call.of (Env.of s) call.1 call.2).lookup)).run q).1.1 =
              calls.map fun call => resolver.invoker call.1 := by
  have hpoints : ∀ call ∈ emitted (itemsFrom (Env.of s) 0 start s.space.infos).1,
      call.2.PointsTo s.space.infos call.1 := fun call hcall =>
    pointsTo_of_mem (mem_emitted.mp hcall)
  have hwalked := walked_itemsFrom (e := Env.of s) 0 hwrap
  constructor
  · intro call hcall
    refine ⟨?_, fun hnames => exists_lookup_line _ hnames (hpoints call hcall)⟩
    exact ofSteps_mem_blocks hg (mem_emitted.mp hcall) rfl (steps_ne_nil _)
  · intro calls hcalls
    have hns : (({ resolver } : MemoryRepository).add s.space).namespaceNamed? s.space.name =
        some s.space := by
      rw [MemoryRepository.namespaceNamed?, MemoryRepository.add, List.lookup_cons,
        beq_self_eq_true]
    obtain ⟨c, q', hrun⟩ := InvokerCache.run_getAll (e := Env.of s)
      (c := { home := s.space.name }) hpoints (fun a ha b hb => hwalked.eq_of_id_eq ha hb) q hns
      hcalls (fun _ _ _ h => nomatch h)
    rw [hrun]
    rfl

/-- Two functions of one name, the second asked for first and again at the end. -/
theorem lookups_reach_namesakes :
    ∃ (s : Scope) (first second : Function × Site) (resolver : Resolver),
      first.1.name = second.1.name ∧ resolver.invoker first.1 ≠ resolver.invoker second.1 ∧
        ((InvokerCache.getAll { home := s.space.name }
          (({ resolver } : MemoryRepository).add s.space).repository
          ([second, first, second].map fun call =>
            (Call.of (Env.of s) call.1 call.2).lookup)).run {}).1.1 =
              [resolver.invoker second.1, resolver.invoker first.1, resolver.invoker second.1] := by
  let left : Function := { name := "turn", symbol := "demo_turn_left" }
  let right : Function := { name := "turn", symbol := "demo_turn_right" }
  let s : Scope :=
    { space := { name := "Demo", version := "1.0", infos := [.function left, .function right] } }
  let resolver : Resolver := ⟨fun _ => .ok 64, fun _ => {}⟩
  have hleft : (left, ⟨0, 0, 0, none⟩) ∈ emitted (itemsFrom (Env.of s) 0 {} s.space.infos).1 :=
    List.mem_cons_self
  have hright : (right, ⟨1, 1, 0, none⟩) ∈ emitted (itemsFrom (Env.of s) 0 {} s.space.infos).1 :=
    List.mem_cons_of_mem _ List.mem_cons_self
  refine ⟨s, (left, ⟨0, 0, 0, none⟩), (right, ⟨1, 1, 0, none⟩), resolver, rfl, ?_, ?_⟩
  · intro h
    have hsymbol := congrArg (fun x => x.toOption.map Invoker.symbol) h
    exact absurd hsymbol (by decide)
  · obtain ⟨g, hg⟩ : ∃ g, generate? s {} = some g := ⟨_, rfl⟩
    refine (lookups_reach hg (by decide) resolver {}).2
      [(right, ⟨1, 1, 0, none⟩), (left, ⟨0, 0, 0, none⟩), (right, ⟨1, 1, 0, none⟩)] ?_
    simp [hleft, hright]

end Binding

end Introspect
