import Introspect.Native.Cache
import Introspect.Proofs.Tables
import Mathlib.Data.List.Dedup

/-!
# What a cache keeps

A cache is asked for invokers and for runtime types, each by a number. Whatever is asked in between,
the first answer under a number stays: a call site that has found its invoker gets that invoker from
then on without a question to the repository, and a number that a valid type was found for answers
with that type. What fails is not kept, so it is tried again the next time.

A single request can do three things: answer from what is kept, find something and keep it, or fail
and change nothing (`run_getIn`, `run_typeOf`). What is kept can therefore be read off the requests
so far and their answers, which is the invariant `Remembers`. Requests of one kind neither see nor
touch what is kept for the other, so a run thinned out to one kind has the same answers.
-/

namespace Introspect

/-! ## Computations made of questions -/

namespace Asking

/-- A computation that does nothing but ask counted questions; it asks for a method by its name only
if `direct`. -/
inductive Made (direct : Prop) : {α : Type} → Asking α → Prop
  | pure {α : Type} (a : α) : Made direct (Pure.pure a : Asking α)
  | bind {α β : Type} {x : Asking α} {f : α → Asking β} (hx : Made direct x)
      (hf : ∀ a, Made direct (f a)) : Made direct (x >>= f)
  | count (byName : Bool) (h : byName = true → direct) : Made direct (count byName)

/-- The answer is the same however many questions were counted before. -/
def Steady {α : Type} (x : Asking α) : Prop := ∀ q q', (x.run q).1 = (x.run q').1

theorem Made.steady {direct : Prop} {α : Type} {x : Asking α} (h : Made direct x) : Steady x := by
  induction h with
  | pure a => exact fun _ _ => rfl
  | @bind α β x f _ _ hx hf =>
      intro q q'
      rw [StateT.run_bind, StateT.run_bind]
      show ((f (x.run q).1).run (x.run q).2).1 = ((f (x.run q').1).run (x.run q').2).1
      rw [hx q q']
      exact hf _ _ _
  | count byName => exact fun _ _ => rfl

end Asking

open Asking (Made Steady)

variable {direct : Prop} {ε : Type}

namespace Repository

variable (r : Repository ε)

theorem made_askAt (home : String) (i : Nat) : Made direct (r.askAt? home i) :=
  (Made.count false nofun).bind fun _ => .pure _

theorem made_ask (home name : String) : Made direct (r.ask? home name) :=
  (Made.count false nofun).bind fun _ => .pure _

theorem made_askMethodAt (e : ε) (i : Nat) : Made direct (r.askMethodAt? e i) :=
  (Made.count false nofun).bind fun _ => .pure _

theorem made_askMethod (h : direct) (e : ε) (name : String) : Made direct (r.askMethod? e name) :=
  (Made.count true fun _ => h).bind fun _ => .pure _

end Repository

namespace InvokerCache

theorem made_findNamed (r : Repository ε) (home : String) (l : Lookup) :
    Made direct (findNamed r home l) := by
  refine (r.made_ask home l.outer).bind fun found => ?_
  cases found <;> exact .pure _

theorem made_findOuter (r : Repository ε) (home : String) (l : Lookup) :
    Made direct (findOuter r home l) := by
  refine (r.made_askAt home l.outerIndex).bind fun found => ?_
  cases found with
  | none => exact made_findNamed r home l
  | some e =>
      dsimp only
      split
      · exact .pure _
      · exact made_findNamed r home l

theorem made_scanMethods (r : Repository ε) (e : ε) (name : String) :
    ∀ count i, Made direct (scanMethods r e name i count) := by
  intro count
  induction count with
  | zero => intro i; exact .pure _
  | succ count ih =>
      intro i
      refine (r.made_askMethodAt e i).bind fun found => ?_
      cases found with
      | none => exact ih (i + 1)
      | some m =>
          dsimp only
          split
          · exact .pure _
          · exact ih (i + 1)

theorem made_findMethod (r : Repository ε) (e : ε) (l : Lookup) :
    Made (l.directQuery = true) (findMethod r e l) := by
  refine Made.bind ?_ fun found => ?_
  · split
    · next hdirect => exact r.made_askMethod hdirect e l.inner
    · exact .pure _
  · cases found with
    | none => exact made_scanMethods r e l.inner (r.methodCount e) 0
    | some m => exact .pure _

theorem made_findInner (r : Repository ε) (e : ε) (l : Lookup) :
    Made (l.directQuery = true) (findInner r e l) := by
  refine (r.made_askMethodAt e l.innerIndex).bind fun found => ?_
  cases found with
  | none => exact made_findMethod r e l
  | some m =>
      dsimp only
      split
      · exact .pure _
      · exact made_findMethod r e l

theorem made_resolve (r : Repository ε) (home : String) (l : Lookup) :
    Made (l.directQuery = true) (resolve r home l) := by
  unfold resolve
  refine (made_findOuter r home l).bind fun found => ?_
  cases found with
  | error f => exact .pure _
  | ok e =>
      dsimp only
      split
      · exact .pure _
      case h_6 => exact .pure _
      all_goals
        refine (made_findInner r e l).bind fun found => ?_
        cases found <;> exact .pure _

theorem made_askType (c : InvokerCache) (r : Repository ε) (name : String) :
    Made direct (c.askType r name) := by
  unfold askType
  refine (r.made_ask c.home name).bind fun found => ?_
  cases found <;> exact .pure _

theorem steady_resolve (r : Repository ε) (home : String) (l : Lookup) :
    Steady (resolve r home l) :=
  (made_resolve r home l).steady

theorem steady_askType (c : InvokerCache) (r : Repository ε) (name : String) :
    Steady (c.askType r name) :=
  (made_askType c r name : Made False _).steady

/-! ## One request -/

/-- What is kept once a call site has asked: its invoker, if there is one. -/
def keep (c : InvokerCache) (id : UInt32) : Except CallFailure Invoker → InvokerCache
  | .ok iv => { c with invokers := (id, iv) :: c.invokers }
  | .error _ => c

/-- What is kept once a runtime type was asked for: the type, if it is valid. -/
def keepType (c : InvokerCache) (id : UInt32) (t : TypeId) : InvokerCache :=
  if t.isValid then { c with types := (id, t) :: c.types } else c

/-- What is answered to the question for a runtime type. -/
def typeAnswer : Except String TypeId → TypeId × List String
  | .ok t => (t, [])
  | .error warning => ({}, [warning])

theorem run_getIn (c : InvokerCache) (r : Repository ε) (place : String) (l : Lookup)
    (q : Queries) :
    (c.getIn r place l).run q =
      match c.invokers.lookup l.id with
      | some iv => ((.ok iv, c), q)
      | none =>
          let found := (resolve r place l).run q
          ((found.1, c.keep l.id found.1), found.2) := by
  unfold getIn
  cases c.invokers.lookup l.id with
  | some iv => rfl
  | none =>
      dsimp only
      rw [StateT.run_bind]
      obtain ⟨found, q'⟩ := (resolve r place l).run q
      cases found <;> rfl

theorem run_typeOf (c : InvokerCache) (r : Repository ε) (id : UInt32) (name : String)
    (q : Queries) :
    (c.typeOf r id name).run q =
      match c.types.lookup id with
      | some t => (((t, []), c), q)
      | none =>
          let found := (c.askType r name).run q
          ((typeAnswer found.1, c.keepType id (typeAnswer found.1).1), found.2) := by
  unfold typeOf
  cases c.types.lookup id with
  | some t => rfl
  | none =>
      dsimp only
      rw [StateT.run_bind]
      obtain ⟨found, q'⟩ := (c.askType r name).run q
      cases found <;> rfl

/-! ## Requests of both kinds -/

/-- What is asked of a cache. -/
inductive Request
  | get (l : Lookup)
  | getIn (place : String) (l : Lookup)
  | typeOf (id : UInt32) (name : String)

/-- What a cache answers. -/
inductive Answer
  | invoker (found : Except CallFailure Invoker)
  | type (t : TypeId) (warnings : List String)

namespace Request

/-- The namespace and the call site that an invoker is asked for. -/
def call? (home : String) : Request → Option (String × Lookup)
  | .get l => some (home, l)
  | .getIn place l => some (place, l)
  | .typeOf .. => none

/-- The number and the name that a runtime type is asked for by. -/
def type? : Request → Option (UInt32 × String)
  | .typeOf id name => some (id, name)
  | _ => none

/-- Whether an invoker is asked for. -/
def isCall : Request → Bool
  | .typeOf .. => false
  | _ => true

end Request

/-- The answer to a request, and the cache then. -/
def answer (c : InvokerCache) (r : Repository ε) : Request → Asking (Answer × InvokerCache)
  | .get l => do
      let (found, c) ← c.get r l
      return (.invoker found, c)
  | .getIn place l => do
      let (found, c) ← c.getIn r place l
      return (.invoker found, c)
  | .typeOf id name => do
      let ((t, warnings), c) ← c.typeOf r id name
      return (.type t warnings, c)

/-- Requests made one after another on one cache, each with its answer. -/
def answerAll (c : InvokerCache) (r : Repository ε) :
    List Request → Asking (List (Request × Answer) × InvokerCache)
  | [] => return ([], c)
  | x :: rest => do
      let (a, c) ← c.answer r x
      let (log, c) ← answerAll c r rest
      return ((x, a) :: log, c)

theorem run_answer_call {c : InvokerCache} {r : Repository ε} {x : Request} {place : String}
    {l : Lookup} (q : Queries) (hx : x.call? c.home = some (place, l)) :
    (c.answer r x).run q =
      match c.invokers.lookup l.id with
      | some iv => ((.invoker (.ok iv), c), q)
      | none =>
          let found := (resolve r place l).run q
          ((.invoker found.1, c.keep l.id found.1), found.2) := by
  have hrun : (c.answer r x).run q =
      let asked := (c.getIn r place l).run q
      ((.invoker asked.1.1, asked.1.2), asked.2) := by
    cases x with
    | get l' | getIn place' l' => cases hx; rfl
    | typeOf id name => cases hx
  rw [hrun, run_getIn]
  cases c.invokers.lookup l.id <;> rfl

theorem run_answer_type {c : InvokerCache} {r : Repository ε} {x : Request} {id : UInt32}
    {name : String} (q : Queries) (hx : x.type? = some (id, name)) :
    (c.answer r x).run q =
      match c.types.lookup id with
      | some t => ((.type t [], c), q)
      | none =>
          let found := (c.askType r name).run q
          ((.type (typeAnswer found.1).1 (typeAnswer found.1).2,
            c.keepType id (typeAnswer found.1).1), found.2) := by
  have hrun : (c.answer r x).run q =
      let asked := (c.typeOf r id name).run q
      ((.type asked.1.1.1 asked.1.1.2, asked.1.2), asked.2) := by
    cases x with
    | get l | getIn place l => cases hx
    | typeOf id' name' => cases hx; rfl
  rw [hrun, run_typeOf]
  cases c.types.lookup id <;> rfl

theorem run_answerAll_cons (c : InvokerCache) (r : Repository ε) (x : Request)
    (rest : List Request) (q : Queries) :
    (c.answerAll r (x :: rest)).run q =
      let first := (c.answer r x).run q
      let others := (first.1.2.answerAll r rest).run first.2
      (((x, first.1.1) :: others.1.1, others.1.2), others.2) := rfl

/-! ## What is kept after a run -/

/-- What a call site has found, if it has. -/
def found? : Request × Answer → Option (UInt32 × Invoker)
  | (.get l, .invoker (.ok iv)) | (.getIn _ l, .invoker (.ok iv)) => some (l.id, iv)
  | _ => none

/-- The valid type that was found under a number, if one was. -/
def foundType? : Request × Answer → Option (UInt32 × TypeId)
  | (.typeOf id _, .type t _) => if t.isValid then some (id, t) else none
  | _ => none

theorem found_call {home place : String} {x : Request} {l : Lookup}
    (hx : x.call? home = some (place, l)) (found : Except CallFailure Invoker) :
    found? (x, .invoker found) = found.toOption.map (l.id, ·) ∧
      foundType? (x, .invoker found) = none := by
  cases x with
  | get l' | getIn place' l' => cases hx; cases found <;> exact ⟨rfl, rfl⟩
  | typeOf id name => cases hx

theorem found_type {x : Request} {id : UInt32} {name : String} (hx : x.type? = some (id, name))
    (t : TypeId) (warnings : List String) :
    found? (x, .type t warnings) = none ∧
      foundType? (x, .type t warnings) = if t.isValid then some (id, t) else none := by
  cases x with
  | get l | getIn place l => cases hx
  | typeOf id' name' => cases hx; exact ⟨rfl, rfl⟩

/-- Every request asks for one of the two. -/
theorem Request.cases_kind (home : String) (x : Request) :
    (∃ place l, x.call? home = some (place, l) ∧ x.isCall = true) ∨
      ∃ id name, x.type? = some (id, name) ∧ x.isCall = false := by
  cases x with
  | get l => exact .inl ⟨home, l, rfl, rfl⟩
  | getIn place l => exact .inl ⟨place, l, rfl, rfl⟩
  | typeOf id name => exact .inr ⟨id, name, rfl, rfl⟩

/-- A table answers with what has been found. -/
def Keeps {β : Type} (table found : List (UInt32 × β)) : Prop :=
  ∀ id v, table.lookup id = some v ↔ (id, v) ∈ found

namespace Keeps

variable {β : Type} {table found : List (UInt32 × β)} {k : UInt32} {v : β}

theorem again (h : Keeps table found) (hk : table.lookup k = some v) :
    Keeps table (found ++ [(k, v)]) := by
  intro id w
  rw [h id w, List.mem_append, List.mem_singleton]
  constructor
  · exact .inl
  · rintro (hold | heq)
    · exact hold
    · rw [heq]
      exact (h k v).mp hk

theorem add (h : Keeps table found) (hk : table.lookup k = none) :
    Keeps ((k, v) :: table) (found ++ [(k, v)]) := by
  intro id w
  rw [List.lookup_cons, List.mem_append, List.mem_singleton]
  by_cases hid : id = k
  · subst hid
    have hnew : (id, w) ∉ found := by
      intro hw
      rw [(h id w).mpr hw] at hk
      cases hk
    simp [hnew, eq_comm]
  · have hne : (id == k) = false := by simpa using hid
    rw [hne]
    simp [h id w, hid]

theorem mem_keys_iff (h : Keeps table found) {id : UInt32} :
    id ∈ table.map Prod.fst ↔ id ∈ found.map Prod.fst := by
  constructor
  · intro hid
    obtain ⟨v, hv⟩ := exists_lookup hid
    exact List.mem_map_of_mem ((h id v).mp hv)
  · intro hid
    obtain ⟨⟨id, v⟩, hp, rfl⟩ := List.mem_map.mp hid
    exact List.mem_map_of_mem (mem_of_lookup ((h id v).mpr hp))

theorem lookup_eq_none_iff (h : Keeps table found) {id : UInt32} :
    table.lookup id = none ↔ id ∉ found.map Prod.fst := by
  rw [← h.mem_keys_iff]
  constructor
  · intro hnone hid
    obtain ⟨v, hv⟩ := exists_lookup hid
    rw [hnone] at hv
    cases hv
  · exact lookup_eq_none_of_not_mem

end Keeps

/-- What is kept is what has been found. -/
structure Remembers (home : String) (log : List (Request × Answer)) (c : InvokerCache) : Prop where
  home : c.home = home
  invokers : Keeps c.invokers (log.filterMap found?)
  types : Keeps c.types (log.filterMap foundType?)
  distinct : (c.invokers.map Prod.fst).Nodup
  valid : ∀ p ∈ c.types, p.2.isValid = true

namespace Remembers

variable {home : String} {log : List (Request × Answer)} {c : InvokerCache}

/-- A request that finds nothing new changes nothing. -/
theorem append (h : Remembers home log c) {x : Request} {a : Answer}
    (hfound : found? (x, a) = none) (htype : foundType? (x, a) = none) :
    Remembers home (log ++ [(x, a)]) c where
  home := h.home
  invokers := by
    rw [filterMap_append_of_none hfound]
    exact h.invokers
  types := by
    rw [filterMap_append_of_none htype]
    exact h.types
  distinct := h.distinct
  valid := h.valid

theorem append_found (h : Remembers home log c) {x : Request} {a : Answer} {id : UInt32}
    {iv : Invoker} (hfound : found? (x, a) = some (id, iv)) (htype : foundType? (x, a) = none) :
    (c.invokers.lookup id = some iv → Remembers home (log ++ [(x, a)]) c) ∧
      (c.invokers.lookup id = none →
        Remembers home (log ++ [(x, a)]) { c with invokers := (id, iv) :: c.invokers }) := by
  have hlog : (log ++ [(x, a)]).filterMap found? = log.filterMap found? ++ [(id, iv)] :=
    filterMap_append_of_some hfound
  have htypes : Keeps c.types ((log ++ [(x, a)]).filterMap foundType?) := by
    rw [filterMap_append_of_none htype]
    exact h.types
  constructor
  · intro hkept
    exact { h with invokers := hlog ▸ h.invokers.again hkept, types := htypes }
  · intro hnone
    have hnew : id ∉ c.invokers.map Prod.fst :=
      h.invokers.mem_keys_iff.not.mpr (h.invokers.lookup_eq_none_iff.mp hnone)
    exact { home := h.home
            invokers := hlog ▸ h.invokers.add hnone
            types := htypes
            distinct := List.nodup_cons.mpr ⟨hnew, h.distinct⟩
            valid := h.valid }

theorem append_foundType (h : Remembers home log c) {x : Request} {a : Answer} {id : UInt32}
    {t : TypeId} (hfound : found? (x, a) = none) (htype : foundType? (x, a) = some (id, t))
    (ht : t.isValid = true) :
    (c.types.lookup id = some t → Remembers home (log ++ [(x, a)]) c) ∧
      (c.types.lookup id = none →
        Remembers home (log ++ [(x, a)]) { c with types := (id, t) :: c.types }) := by
  have hlog : (log ++ [(x, a)]).filterMap foundType? = log.filterMap foundType? ++ [(id, t)] :=
    filterMap_append_of_some htype
  have hinvokers : Keeps c.invokers ((log ++ [(x, a)]).filterMap found?) := by
    rw [filterMap_append_of_none hfound]
    exact h.invokers
  constructor
  · intro hkept
    exact { h with invokers := hinvokers, types := hlog ▸ h.types.again hkept }
  · intro hnone
    exact { h with
            invokers := hinvokers
            types := hlog ▸ h.types.add hnone
            valid := List.forall_mem_cons.mpr ⟨ht, h.valid⟩ }

theorem answer (h : Remembers home log c) (r : Repository ε) (x : Request) (q : Queries) :
    Remembers home (log ++ [(x, ((c.answer r x).run q).1.1)]) ((c.answer r x).run q).1.2 := by
  rcases x.cases_kind c.home with ⟨place, l, hx, -⟩ | ⟨id, name, hx, -⟩
  · rw [run_answer_call q hx]
    cases hkept : c.invokers.lookup l.id with
    | some iv =>
        obtain ⟨hfound, htype⟩ := found_call hx (.ok iv)
        exact (h.append_found hfound htype).1 hkept
    | none =>
        dsimp only
        generalize ((resolve r place l).run q).1 = found
        obtain ⟨hfound, htype⟩ := found_call hx found
        cases found with
        | error f => exact h.append hfound htype
        | ok iv => exact (h.append_found hfound htype).2 hkept
  · rw [run_answer_type q hx]
    cases hkept : c.types.lookup id with
    | some t =>
        obtain ⟨hfound, htype⟩ := found_type hx t []
        have ht := h.valid _ (mem_of_lookup hkept)
        rw [if_pos ht] at htype
        exact (h.append_foundType hfound htype ht).1 hkept
    | none =>
        dsimp only
        generalize typeAnswer ((c.askType r name).run q).1 = found
        obtain ⟨hfound, htype⟩ := found_type hx found.1 found.2
        by_cases ht : found.1.isValid = true
        · rw [if_pos ht] at htype
          rw [keepType, if_pos ht]
          exact (h.append_foundType hfound htype ht).2 hkept
        · rw [if_neg ht] at htype
          rw [keepType, if_neg ht]
          exact h.append hfound htype

theorem answerAll (r : Repository ε) (requests : List Request) :
    ∀ {log : List (Request × Answer)} {c : InvokerCache} (q : Queries), Remembers home log c →
      Remembers home (log ++ ((c.answerAll r requests).run q).1.1)
        ((c.answerAll r requests).run q).1.2 := by
  induction requests with
  | nil =>
      intro log c q h
      show Remembers home (log ++ []) c
      rwa [List.append_nil]
  | cons x rest ih =>
      intro log c q h
      have hrest := ih ((c.answer r x).run q).2 (h.answer r x q)
      rw [List.append_assoc] at hrest
      rw [run_answerAll_cons]
      exact hrest

theorem empty (home : String) : Remembers home [] { home } where
  home := rfl
  invokers _ _ := by simp
  types _ _ := by simp
  distinct := List.nodup_nil
  valid := List.forall_mem_nil _

end Remembers

/-! ## Requests of one kind among others -/

/-- What only some requests see and touch is the same without the others, and so are the answers to
those requests. -/
theorem thin {β : Type} {r : Repository ε} {p : Request → Bool} {view : InvokerCache → β}
    (hsame : ∀ x c d q q', p x = true → view c = view d →
      ((c.answer r x).run q).1.1 = ((d.answer r x).run q').1.1 ∧
        view ((c.answer r x).run q).1.2 = view ((d.answer r x).run q').1.2)
    (hother : ∀ x c q, p x = false → view ((c.answer r x).run q).1.2 = view c)
    (requests : List Request) :
    ∀ {c d : InvokerCache} (q q' : Queries), view c = view d →
      ((c.answerAll r requests).run q).1.1.filter (fun e => p e.1) =
          ((d.answerAll r (requests.filter p)).run q').1.1 ∧
        view ((c.answerAll r requests).run q).1.2 =
          view ((d.answerAll r (requests.filter p)).run q').1.2 := by
  induction requests with
  | nil => intro c d q q' h; exact ⟨rfl, h⟩
  | cons x rest ih =>
      intro c d q q' h
      rw [run_answerAll_cons]
      dsimp only
      by_cases hx : p x = true
      · obtain ⟨hanswer, hview⟩ := hsame x c d q q' hx h
        obtain ⟨hlog, hafter⟩ := ih ((c.answer r x).run q).2 ((d.answer r x).run q').2 hview
        simp only [List.filter_cons, hx, if_true, run_answerAll_cons, hlog, hafter, hanswer,
          and_self]
      · have hview := (hother x c q (Bool.eq_false_iff.mpr hx)).trans h
        obtain ⟨hlog, hafter⟩ := ih ((c.answer r x).run q).2 q' hview
        simp only [List.filter_cons, hx, Bool.false_eq_true, if_false, hlog, hafter, and_self]

theorem thin_calls (r : Repository ε) (requests : List Request) (c : InvokerCache)
    (q q' : Queries) :
    ((c.answerAll r requests).run q).1.1.filter (fun e => e.1.isCall) =
        ((c.answerAll r (requests.filter Request.isCall)).run q').1.1 ∧
      ((c.answerAll r requests).run q).1.2.invokers =
        ((c.answerAll r (requests.filter Request.isCall)).run q').1.2.invokers := by
  have hsame : ∀ x c d q q', Request.isCall x = true → (c.home, c.invokers) = (d.home, d.invokers) →
      ((answer c r x).run q).1.1 = ((answer d r x).run q').1.1 ∧
        (((answer c r x).run q).1.2.home, ((answer c r x).run q).1.2.invokers) =
          (((answer d r x).run q').1.2.home, ((answer d r x).run q').1.2.invokers) := by
    intro x c d q q' hx h
    obtain ⟨hhome, hinvokers⟩ := (Prod.mk.injEq ..).mp h
    rcases x.cases_kind c.home with ⟨place, l, hcall, -⟩ | ⟨id, name, -, htype⟩
    · have hresolve := steady_resolve r place l q q'
      rw [run_answer_call q hcall, run_answer_call q' (hhome ▸ hcall), ← hinvokers]
      cases c.invokers.lookup l.id with
      | some iv => exact ⟨rfl, h⟩
      | none =>
          dsimp only
          rw [hresolve]
          cases ((resolve r place l).run q').1 with
          | error f => exact ⟨rfl, h⟩
          | ok iv => exact ⟨rfl, by simp only [keep, hhome, hinvokers]⟩
    · rw [hx] at htype
      cases htype
  have hother : ∀ x c q, Request.isCall x = false →
      (((answer c r x).run q).1.2.home, ((answer c r x).run q).1.2.invokers) =
        (c.home, c.invokers) := by
    intro x c q hx
    rcases x.cases_kind c.home with ⟨place, l, -, hcall⟩ | ⟨id, name, htype, -⟩
    · rw [hx] at hcall
      cases hcall
    · rw [run_answer_type q htype]
      cases c.types.lookup id with
      | some t => rfl
      | none =>
          dsimp only [keepType]
          split <;> rfl
  obtain ⟨hlog, hview⟩ := thin hsame hother requests q q' (d := c) rfl
  exact ⟨hlog, ((Prod.mk.injEq ..).mp hview).2⟩

theorem thin_types (r : Repository ε) (requests : List Request) (c : InvokerCache)
    (q q' : Queries) :
    ((c.answerAll r requests).run q).1.1.filter (fun e => !e.1.isCall) =
        ((c.answerAll r (requests.filter fun x => !x.isCall)).run q').1.1 ∧
      ((c.answerAll r requests).run q).1.2.types =
        ((c.answerAll r (requests.filter fun x => !x.isCall)).run q').1.2.types := by
  have hsame : ∀ x c d q q', (!Request.isCall x) = true → (c.home, c.types) = (d.home, d.types) →
      ((answer c r x).run q).1.1 = ((answer d r x).run q').1.1 ∧
        (((answer c r x).run q).1.2.home, ((answer c r x).run q).1.2.types) =
          (((answer d r x).run q').1.2.home, ((answer d r x).run q').1.2.types) := by
    intro x c d q q' hx h
    obtain ⟨hhome, htypes⟩ := (Prod.mk.injEq ..).mp h
    rcases x.cases_kind c.home with ⟨place, l, -, hcall⟩ | ⟨id, name, htype, -⟩
    · rw [hcall] at hx
      cases hx
    · have hask : c.askType r name = d.askType r name := by rw [askType, askType, hhome]
      have hsteady := steady_askType d r name q q'
      rw [run_answer_type q htype, run_answer_type q' htype, ← htypes]
      cases c.types.lookup id with
      | some t => exact ⟨rfl, h⟩
      | none =>
          dsimp only [keepType]
          rw [hask, hsteady]
          refine ⟨rfl, ?_⟩
          split
          · simp only [hhome, htypes]
          · exact h
  have hother : ∀ x c q, (!Request.isCall x) = false →
      (((answer c r x).run q).1.2.home, ((answer c r x).run q).1.2.types) =
        (c.home, c.types) := by
    intro x c q hx
    rcases x.cases_kind c.home with ⟨place, l, hcall, -⟩ | ⟨id, name, -, htype⟩
    · rw [run_answer_call q hcall]
      cases c.invokers.lookup l.id with
      | some iv => rfl
      | none =>
          dsimp only
          cases ((resolve r place l).run q).1 <;> rfl
    · rw [htype] at hx
      cases hx
  obtain ⟨hlog, hview⟩ := thin hsame hother requests q q' (d := c) rfl
  exact ⟨hlog, ((Prod.mk.injEq ..).mp hview).2⟩

/-! ## Runs on a new cache -/

section
variable (home : String) (r : Repository ε) (q : Queries) (earlier : List Request)

/-- The requests with their answers. -/
def log : List (Request × Answer) := ((answerAll { home } r earlier).run q).1.1

/-- The cache after the requests. -/
def after : InvokerCache := ((answerAll { home } r earlier).run q).1.2

/-- How a cache stands after some requests, and what it makes of the next one. The repository is `r`
throughout, whatever it is made of; that what is kept is given without a question to it is said with
another one, `r'`, in its place. -/
structure WriteOnce : Prop where
  asked : (log home r q earlier).map Prod.fst = earlier
  /-- A call site that has found its invoker gets that one, whatever else it says. -/
  again : ∀ x place l iv, x.call? home = some (place, l) →
    (l.id, iv) ∈ (log home r q earlier).filterMap found? →
      ∀ {ε' : Type} (r' : Repository ε') q', ((after home r q earlier).answer r' x).run q' =
        ((.invoker (.ok iv), after home r q earlier), q')
  /-- One that has found none is searched for, and what is found is kept. -/
  afresh : ∀ x place l q', x.call? home = some (place, l) →
    l.id ∉ ((log home r q earlier).filterMap found?).map Prod.fst →
      ((after home r q earlier).answer r x).run q' =
        let found := (resolve r place l).run q'
        ((.invoker found.1, (after home r q earlier).keep l.id found.1), found.2)
  failed : ∀ x f q', (((after home r q earlier).answer r x).run q').1.1 = .invoker (.error f) →
    (((after home r q earlier).answer r x).run q').1.2 = after home r q earlier
  size : (after home r q earlier).size =
    (((log home r q earlier).filterMap found?).map Prod.fst).dedup.length
  /-- A number that a valid type was found for answers with that type. -/
  typeAgain : ∀ id name t, (id, t) ∈ (log home r q earlier).filterMap foundType? →
    ∀ {ε' : Type} (r' : Repository ε') q',
      ((after home r q earlier).answer r' (.typeOf id name)).run q' =
        ((.type t [], after home r q earlier), q')
  typeAfresh : ∀ id name q', id ∉ ((log home r q earlier).filterMap foundType?).map Prod.fst →
    ((after home r q earlier).answer r (.typeOf id name)).run q' =
      let found := ((after home r q earlier).askType r name).run q'
      ((.type (typeAnswer found.1).1 (typeAnswer found.1).2,
        (after home r q earlier).keepType id (typeAnswer found.1).1), found.2)
  typeFailed : ∀ x t warnings q',
    (((after home r q earlier).answer r x).run q').1.1 = .type t warnings → t.isValid = false →
      (((after home r q earlier).answer r x).run q').1.2 = after home r q earlier
  valid : ∀ p ∈ (after home r q earlier).types, p.2.isValid = true
  /-- What is asked of types makes no difference to calls. -/
  calls : ∀ q', (log home r q earlier).filter (fun e => e.1.isCall) =
      log home r q' (earlier.filter Request.isCall) ∧
    (after home r q earlier).invokers = (after home r q' (earlier.filter Request.isCall)).invokers
  /-- What call sites ask makes no difference to types. -/
  types : ∀ q', (log home r q earlier).filter (fun e => !e.1.isCall) =
      log home r q' (earlier.filter fun x => !x.isCall) ∧
    (after home r q earlier).types = (after home r q' (earlier.filter fun x => !x.isCall)).types

theorem remembers_after :
    Remembers home (log home r q earlier) (after home r q earlier) := by
  have h := (Remembers.empty home).answerAll r earlier q
  rwa [List.nil_append] at h

theorem map_fst_answerAll {requests : List Request} : ∀ (c : InvokerCache) (q : Queries),
    ((c.answerAll r requests).run q).1.1.map Prod.fst = requests := by
  induction requests with
  | nil => intro c q; rfl
  | cons x rest ih =>
      intro c q
      rw [run_answerAll_cons, List.map_cons, ih]

/-- A cache keeps the first invoker found for each call site and the first valid type found under
each number, and nothing else: it answers with what it keeps, and asks for the rest. -/
theorem writeOnce_after : WriteOnce home r q earlier := by
  have h := remembers_after home r q earlier
  constructor
  case asked => exact map_fst_answerAll r _ q
  case again =>
    intro x place l iv hx hfound ε' r' q'
    rw [← h.home] at hx
    rw [run_answer_call q' hx, (h.invokers _ _).mpr hfound]
  case afresh =>
    intro x place l q' hx hnew
    rw [← h.home] at hx
    rw [run_answer_call q' hx, h.invokers.lookup_eq_none_iff.mpr hnew]
  case failed =>
    intro x f q' hfailed
    rcases x.cases_kind (after home r q earlier).home with ⟨place, l, hx, -⟩ | ⟨id, name, hx, -⟩
    · rw [run_answer_call q' hx] at hfailed ⊢
      cases hkept : (after home r q earlier).invokers.lookup l.id with
      | some iv => rfl
      | none =>
          rw [hkept] at hfailed
          dsimp only at hfailed ⊢
          rw [Answer.invoker.injEq] at hfailed
          rw [hfailed, keep]
    · rw [run_answer_type q' hx] at hfailed
      cases hkept : (after home r q earlier).types.lookup id <;> rw [hkept] at hfailed <;>
        cases hfailed
  case size =>
    have hperm : ((after home r q earlier).invokers.map Prod.fst).Perm
        (((log home r q earlier).filterMap found?).map Prod.fst).dedup := by
      rw [List.perm_ext_iff_of_nodup h.distinct (List.nodup_dedup _)]
      intro id
      rw [List.mem_dedup]
      exact h.invokers.mem_keys_iff
    rw [size, ← hperm.length_eq, List.length_map]
  case typeAgain =>
    intro id name t hfound ε' r' q'
    rw [run_answer_type q' rfl, (h.types _ _).mpr hfound]
  case typeAfresh =>
    intro id name q' hnew
    rw [run_answer_type q' rfl, h.types.lookup_eq_none_iff.mpr hnew]
  case typeFailed =>
    intro x t warnings q' hfailed ht
    rcases x.cases_kind (after home r q earlier).home with ⟨place, l, hx, -⟩ | ⟨id, name, hx, -⟩
    · rw [run_answer_call q' hx] at hfailed
      cases hkept : (after home r q earlier).invokers.lookup l.id <;> rw [hkept] at hfailed <;>
        cases hfailed
    · rw [run_answer_type q' hx] at hfailed ⊢
      cases hkept : (after home r q earlier).types.lookup id with
      | some t => rfl
      | none =>
          rw [hkept] at hfailed
          dsimp only at hfailed ⊢
          rw [Answer.type.injEq] at hfailed
          rw [hfailed.1, keepType, ht]
          rfl
  case valid => exact h.valid
  case calls => exact fun q' => thin_calls r earlier { home } q q'
  case types => exact fun q' => thin_types r earlier { home } q q'

end

end InvokerCache

end Introspect
