import Introspect.Proofs.CallSites
import Introspect.Proofs.Caching

/-!
# Hints do not decide

A call site says where its function stood when the code was generated, and whether a container may
be asked for the method by name. Both are hints. What the cache finds is what the names and the kind
stand for, as long as no two symbols of the namespace have one name and no two methods of a
container do: a position counts only if name and kind agree there, and then the search by name ends
at the same symbol; and a method is found at its position, by asking for it, or one by one, all by
its name. So stale positions, positions of other symbols and positions beyond the last lead to the
same invoker, or to the same failure.

`MemoryRepository.named` is the answer that names alone give. Each step of a search is shown to give
its share of it (`Answers`), whatever was asked before.
-/

namespace Introspect

/-! ## Entries with names of their own -/

theorem map_snd_findIndexed? {α : Type} (p : α → Bool) (entries : List α) :
    (findIndexed? p entries).map Prod.snd = entries.find? p := by
  induction entries with
  | nil => rfl
  | cons x rest ih =>
      rw [findIndexed?, List.find?_cons]
      cases p x with
      | true => rfl
      | false =>
          rw [← ih]
          simp only [Bool.false_eq_true, if_false, Option.map_map]
          rfl

/-- An entry is the first of its name if no other has it. -/
theorem find?_name_of_mem {α : Type} {name : α → String} {entries : List α} {x : α}
    (h : (entries.map name).Nodup) (hx : x ∈ entries) :
    entries.find? (fun y => decide (name y = name x)) = some x := by
  obtain ⟨y, hy⟩ : ∃ y, entries.find? (fun y => decide (name y = name x)) = some y :=
    Option.isSome_iff_exists.mp (List.find?_isSome.mpr ⟨x, hx, decide_eq_true rfl⟩)
  have hname : name y = name x := of_decide_eq_true (List.find?_some hy :)
  rw [hy, List.inj_on_of_nodup_map h (List.mem_of_find?_eq_some hy) hx hname]

namespace MemoryRepository

/-- No two symbols of a namespace have one name, and no two methods of a container. -/
structure Distinct (r : MemoryRepository) (home : String) : Prop where
  infos : ∀ ns, r.namespaceNamed? home = some ns → (ns.infos.map Info.name).Nodup
  methods : ∀ ns, r.namespaceNamed? home = some ns → ∀ info ∈ ns.infos, ∀ c,
    info.container? = some c → (c.methods.map (·.name)).Nodup

/-- The symbol that a name and a kind stand for. -/
def symbol? (r : MemoryRepository) (home name : String) (kind : SymbolKind) : Option Info :=
  (r.namespaceNamed? home).bind fun ns =>
    (ns.infos.find? (·.name = name)).filter (·.kind = kind)

/-- The invoker that names and a kind stand for, or why there is none. -/
def named (r : MemoryRepository) (home outer inner : String) (kind : SymbolKind) :
    Except CallFailure Invoker :=
  match r.symbol? home outer kind with
  | none => .error (.notFound outer home)
  | some (.function f) => r.resolver.invoker f
  | some (.container _ c) =>
      match c.methods.find? (·.name = inner) with
      | some f => r.resolver.invoker f
      | none => .error (.methodNotFound inner outer kind home)
  | some _ => .error (.unsupported kind)

end MemoryRepository

/-! ## Answers -/

namespace Asking

variable {α β : Type} {x : Asking α} {f : α → Asking β} {a : α} {b : β}

/-- The computation gives this answer, whatever was asked before. -/
def Answers (x : Asking α) (a : α) : Prop := ∀ q, (x.run q).1 = a

theorem Answers.pure (a : α) : Answers (Pure.pure a) a := fun _ => rfl

theorem Answers.bind (hx : Answers x a) (hf : Answers (f a) b) : Answers (x >>= f) b := by
  intro q
  rw [StateT.run_bind]
  show ((f (x.run q).1).run (x.run q).2).1 = b
  rw [hx q]
  exact hf _

/-- A computation that may not ask for a method by name does not. -/
theorem Made.methodsByName {direct : Prop} (h : Made direct x) (hdirect : ¬direct) (q : Queries) :
    (x.run q).2.methodsByName = q.methodsByName := by
  induction h generalizing q with
  | pure a => rfl
  | @bind α β x f _ _ hx hf =>
      rw [StateT.run_bind]
      exact (hf _ _).trans (hx q)
  | count byName hallowed =>
      cases byName with
      | true => exact absurd (hallowed rfl) hdirect
      | false => rfl

end Asking

open Asking (Answers Made)

variable {r : MemoryRepository} {home : String}

theorem MemoryRepository.answers_askAt (r : MemoryRepository) (home : String) (i : Nat) :
    Answers (r.repository.askAt? home i)
      ((r.namespaceNamed? home).bind fun ns => ns.infos[i]?.map Entry.top) := by
  intro q
  show (r.namespaceNamed? home).bind _ = _
  refine congrArg _ (funext fun ns => ?_)
  cases ns.infos[i]? <;> rfl

theorem MemoryRepository.answers_ask (r : MemoryRepository) (home name : String) :
    Answers (r.repository.ask? home name)
      ((r.namespaceNamed? home).bind fun ns => (ns.infos.find? (·.name = name)).map Entry.top) := by
  intro q
  show (r.namespaceNamed? home).bind _ = _
  refine congrArg _ (funext fun ns => ?_)
  rw [← map_snd_findIndexed?, Option.map_map, Namespace.find?]
  cases findIndexed? _ ns.infos <;> rfl

theorem Entry.answers_askMethodAt (r : MemoryRepository) {e : Entry} {c : Container}
    (hc : e.container? = some c) (i : Nat) :
    Answers (r.repository.askMethodAt? e i) (c.methods[i]?.map Entry.method) := by
  intro q
  show (e.container?.bind fun c => c.methods[i]?.bind fun f => some (Entry.method f)) = _
  rw [hc, Option.map_eq_bind]
  rfl

theorem Entry.answers_askMethod (r : MemoryRepository) {e : Entry} {c : Container}
    (hc : e.container? = some c) (name : String) :
    Answers (r.repository.askMethod? e name)
      ((c.methods.find? (·.name = name)).map Entry.method) := by
  intro q
  show e.container?.bind _ = _
  rw [hc, ← map_snd_findIndexed?, Option.map_map]
  show (c.findMethod? name).bind _ = _
  rw [Container.findMethod?]
  cases findIndexed? _ c.methods <;> rfl

namespace InvokerCache

/-! ## The symbol -/

/-- What the search for a symbol ends with. -/
def outerAnswer (r : MemoryRepository) (home : String) (l : Lookup) : Except CallFailure Entry :=
  match r.symbol? home l.outer l.kind with
  | some info => .ok (.top info)
  | none => .error (.notFound l.outer home)

theorem answers_findNamed (r : MemoryRepository) (home : String) (l : Lookup) :
    Answers (findNamed r.repository home l) (outerAnswer r home l) := by
  refine (r.answers_ask home l.outer).bind ?_
  unfold outerAnswer MemoryRepository.symbol?
  cases r.namespaceNamed? home with
  | none => exact .pure _
  | some ns =>
      simp only [Option.bind_some]
      cases ns.infos.find? (fun info => decide (info.name = l.outer)) with
      | none => exact .pure _
      | some info =>
          simp only [Option.map_some, MemoryRepository.kind_top, Option.filter_some]
          by_cases h : info.kind = l.kind
          · simp only [h, decide_true, if_true]
            exact .pure _
          · simp only [h, decide_false, Bool.false_eq_true, if_false]
            exact .pure _

/-- A symbol at the position a call site remembers, with its name and its kind, is the one that both
stand for. -/
theorem outerAnswer_of_at (h : r.Distinct home) {l : Lookup} {ns : Namespace} {info : Info}
    (hns : r.namespaceNamed? home = some ns) (hinfo : ns.infos[l.outerIndex]? = some info)
    (hname : info.name = l.outer) (hkind : info.kind = l.kind) :
    outerAnswer r home l = .ok (.top info) := by
  have hfind := find?_name_of_mem (h.infos ns hns) (List.mem_of_getElem? hinfo)
  rw [hname] at hfind
  simp only [outerAnswer, MemoryRepository.symbol?, hns, Option.bind_some, hfind,
    Option.filter_some, hkind, decide_true, if_true]

theorem answers_findOuter (h : r.Distinct home) (l : Lookup) :
    Answers (findOuter r.repository home l) (outerAnswer r home l) := by
  have hname := answers_findNamed r home l
  refine (r.answers_askAt home l.outerIndex).bind ?_
  cases hns : r.namespaceNamed? home with
  | none => exact hname
  | some ns =>
      cases hinfo : ns.infos[l.outerIndex]? with
      | none =>
          simp only [Option.bind_some, hinfo]
          exact hname
      | some info =>
          simp only [Option.bind_some, hinfo, Option.map_some]
          split
          · next hagrees =>
              rw [outerAnswer_of_at h hns hinfo hagrees.1 hagrees.2]
              exact .pure _
          · exact hname

/-! ## The method -/

variable {e : Entry} {c : Container}

/-- One by one, the first of the remaining methods with the name is found. -/
theorem answers_scanMethods (r : MemoryRepository) (hc : e.container? = some c) (name : String) :
    ∀ count i, i + count = c.methods.length →
      Answers (scanMethods r.repository e name i count)
        (((c.methods.drop i).find? (·.name = name)).map Entry.method) := by
  intro count
  induction count with
  | zero =>
      intro i hi
      rw [List.drop_eq_nil_of_le (by omega)]
      exact .pure _
  | succ count ih =>
      intro i hi
      have hlt : i < c.methods.length := by omega
      refine (Entry.answers_askMethodAt r hc i).bind ?_
      rw [List.drop_eq_getElem_cons hlt, List.find?_cons, List.getElem?_eq_getElem hlt]
      simp only [Option.map_some]
      split
      · next hname =>
          rw [MemoryRepository.name_method] at hname
          simp only [hname, decide_true, Option.map_some]
          exact .pure _
      · next hname =>
          rw [MemoryRepository.name_method] at hname
          simp only [hname, decide_false]
          exact ih (i + 1) (by omega)

theorem answers_findMethod (r : MemoryRepository) (hc : e.container? = some c) (l : Lookup) :
    Answers (findMethod r.repository e l)
      ((c.methods.find? (·.name = l.inner)).map Entry.method) := by
  have hscan := answers_scanMethods r hc l.inner e.methodCount 0
    (by rw [Entry.methodCount, hc, Nat.zero_add]; rfl)
  rw [List.drop_zero] at hscan
  unfold findMethod
  split
  · refine (Entry.answers_askMethod r hc l.inner).bind ?_
    cases hfind : c.methods.find? (fun f => decide (f.name = l.inner)) with
    | none =>
        rw [hfind] at hscan
        exact hscan
    | some f => exact .pure _
  · exact (Answers.pure none).bind hscan

theorem answers_findInner (r : MemoryRepository) (hc : e.container? = some c)
    (h : (c.methods.map (·.name)).Nodup) (l : Lookup) :
    Answers (findInner r.repository e l)
      ((c.methods.find? (·.name = l.inner)).map Entry.method) := by
  have hmethod := answers_findMethod r hc l
  refine (Entry.answers_askMethodAt r hc l.innerIndex).bind ?_
  cases hf : c.methods[l.innerIndex]? with
  | none => exact hmethod
  | some f =>
      simp only [Option.map_some]
      split
      · next hname =>
          have hfind := find?_name_of_mem h (List.mem_of_getElem? hf)
          rw [MemoryRepository.name_method] at hname
          rw [hname] at hfind
          rw [hfind]
          exact .pure _
      · exact hmethod

/-! ## The invoker -/

/-- A lookup ends with what its names and its kind stand for. -/
theorem answers_resolve (h : r.Distinct home) (l : Lookup) :
    Answers (resolve r.repository home l) (r.named home l.outer l.inner l.kind) := by
  unfold resolve
  refine (answers_findOuter h l).bind ?_
  unfold outerAnswer MemoryRepository.named
  cases hsymbol : r.symbol? home l.outer l.kind with
  | none => exact .pure _
  | some info =>
      obtain ⟨ns, hns, hfound⟩ := Option.bind_eq_some_iff.mp hsymbol
      obtain ⟨hfind, hkind⟩ := Option.filter_eq_some_iff.mp hfound
      have hmem := List.mem_of_find?_eq_some hfind
      have hkind : info.kind = l.kind := of_decide_eq_true hkind
      rw [← hkind]
      dsimp only
      cases info with
      | container kind c =>
          have hinner := answers_findInner r (e := .top (.container kind c)) rfl
            (h.methods ns hns _ hmem c rfl) l
          cases kind
          all_goals
            refine hinner.bind ?_
            dsimp only
            cases c.methods.find? (fun f => decide (f.name = l.inner)) <;> exact .pure _
      | function f => exact .pure _
      | callback | enum | flags | constant => exact .pure _

/-- How a cache answers the call sites that differ from `l` in their hints alone. -/
structure DecidedByNames (r : MemoryRepository) (home : String) (c : InvokerCache) (l : Lookup)
    (ask : Lookup → Asking (Except CallFailure Invoker × InvokerCache)) : Prop where
  /-- The names and the kind decide on the answer, and so on what is kept. -/
  named : ∀ i j direct q,
    ((ask { l with outerIndex := i, innerIndex := j, directQuery := direct }).run q).1 =
      (r.named home l.outer l.inner l.kind, c.keep l.id (r.named home l.outer l.inner l.kind))
  /-- All of them get one answer, whatever was asked before. -/
  same : ∀ i j direct i' j' direct' q q',
    ((ask { l with outerIndex := i, innerIndex := j, directQuery := direct }).run q).1 =
      ((ask { l with outerIndex := i', innerIndex := j', directQuery := direct' }).run q').1
  /-- No container is asked for a method by name where the call site forbids it. -/
  unasked : ∀ i j q,
    ((ask { l with outerIndex := i, innerIndex := j, directQuery := false }).run q
      ).2.methodsByName = q.methodsByName

theorem getIn_decidedByNames {c : InvokerCache} {l : Lookup} (h : r.Distinct home)
    (hmiss : c.invokers.lookup l.id = none) :
    DecidedByNames r home c l (c.getIn r.repository home) := by
  have hnamed : ∀ i j direct q,
      ((c.getIn r.repository home
        { l with outerIndex := i, innerIndex := j, directQuery := direct }).run q).1 =
        (r.named home l.outer l.inner l.kind,
          c.keep l.id (r.named home l.outer l.inner l.kind)) := by
    intro i j direct q
    have hfound := answers_resolve h
      { l with outerIndex := i, innerIndex := j, directQuery := direct } q
    rw [run_getIn, hmiss]
    dsimp only
    rw [hfound]
  refine ⟨hnamed, ?_, ?_⟩
  · intro i j direct i' j' direct' q q'
    rw [hnamed, hnamed]
  · intro i j q
    rw [run_getIn, hmiss]
    exact (made_resolve r.repository home _).methodsByName Bool.false_ne_true q

/-- Where names are distinct, the hints of a call site change nothing in what it is answered. -/
theorem get_decidedByNames {c : InvokerCache} {l : Lookup} (h : r.Distinct c.home)
    (hmiss : c.invokers.lookup l.id = none) :
    DecidedByNames r c.home c l (c.get r.repository) :=
  getIn_decidedByNames h hmiss

/-- A method of a container, with both positions those of other symbols of its namespace, and with
both beyond the last. -/
theorem get_decidedByNames_stale :
    ∃ (r : MemoryRepository) (c : InvokerCache) (l : Lookup) (f : Function),
      r.Distinct c.home ∧ c.invokers.lookup l.id = none ∧ l.inner = f.name ∧
        (∀ q, ((c.get r.repository
          { l with outerIndex := 0, innerIndex := 0, directQuery := true }).run q).1.1 =
            r.resolver.invoker f) ∧
        (∀ q, ((c.get r.repository
          { l with outerIndex := 9, innerIndex := 9, directQuery := false }).run q).1.1 =
            r.resolver.invoker f) ∧
        ∀ q, ((c.get r.repository
          { l with outerIndex := 9, innerIndex := 9, directQuery := false }).run q
            ).2.methodsByName = q.methodsByName := by
  let first : Function := { name := "first", symbol := "demo_first" }
  let second : Function := { name := "second", symbol := "demo_second" }
  let infos : List Info :=
    [.function { name := "answer", symbol := "demo_answer" },
      .container .struct { name := "Box", methods := [first, second] }]
  let ns : Namespace := { name := "Demo", version := "1.0", infos }
  let r : MemoryRepository :=
    { namespaces := [("Demo", ns)], resolver := ⟨fun _ => .ok 64, fun _ => {}⟩ }
  let c : InvokerCache := { home := "Demo" }
  let l : Lookup := ⟨1, "Box", "second", 1, 1, .struct, true⟩
  have hdistinct : r.Distinct c.home := by
    constructor
    · intro ns' hns
      cases hns
      decide
    · intro ns' hns info hinfo container hcontainer
      cases hns
      rcases List.mem_pair.mp hinfo with rfl | rfl <;> cases hcontainer
      decide
  have hmiss : c.invokers.lookup l.id = none := rfl
  have h := get_decidedByNames hdistinct hmiss
  refine ⟨r, c, l, second, hdistinct, hmiss, rfl, ?_, ?_, h.unasked 9 9⟩
  · intro q
    rw [h.named]
    rfl
  · intro q
    rw [h.named]
    rfl

end InvokerCache

end Introspect
