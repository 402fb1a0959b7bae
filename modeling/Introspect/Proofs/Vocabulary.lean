import Introspect.Proofs.Fabric
import Introspect.Proofs.RoundTrip
import Introspect.Proofs.Walk

/-!
# The words of a namespace

What the lines of a file are woven from comes from the namespace and its settings: the names of the
symbols, of their arguments and members and of the types they mention, the symbols of the functions,
and the namespaces that foreign types belong to. Here they are listed, and a function of the
namespace is seen to be generated from them.
-/

namespace Introspect

open Source (Word)

namespace Info

/-- The types that a symbol mentions. -/
def references (info : Info) : List Reference := info.types.flatMap NativeType.references

/-- The names of the members, and that of the parent. -/
def memberNames : Info → List String
  | .enum e | .flags e => e.values.map (·.name)
  | .container _ c => c.parent.toList
  | _ => []

/-- All names that a symbol has or mentions, those of namespaces aside. -/
def names (info : Info) : List String :=
  [info.name] ++ info.memberNames ++ info.functions.map (·.name) ++
    (info.signatures.flatMap fun (_, args) => args.map (·.name)) ++ info.references.map (·.name)

variable {info : Info} {f : Function}

theorem name_mem_names : info.name ∈ info.names := by simp [names]

theorem types_of_mem_functions (h : f ∈ info.functions) :
    f.returns :: f.args.map (·.type) ⊆ info.types := by
  cases info with
  | callback cb => cases h
  | function g | container kind c | enum e | flags e | constant c =>
      exact fun t ht => List.mem_flatMap.mpr ⟨f, h, ht⟩

theorem signature_of_mem_functions (h : f ∈ info.functions) :
    (f.symbol, f.args) ∈ info.signatures := by
  cases info with
  | callback cb => cases h
  | function g | container kind c | enum e | flags e | constant c =>
      exact List.mem_map.mpr ⟨f, h, rfl⟩

theorem arg_mem_names {owner : String} {args : List Argument} (h : (owner, args) ∈ info.signatures)
    {a : Argument} (ha : a ∈ args) : a.name ∈ info.names := by
  refine List.mem_append_left _ (List.mem_append_right _ ?_)
  exact List.mem_flatMap.mpr ⟨_, h, List.mem_map.mpr ⟨a, ha, rfl⟩⟩

end Info

namespace Namespace

/-- The types that a namespace mentions. -/
def references (ns : Namespace) : List Reference := ns.infos.flatMap Info.references

/-- All names of a namespace and of what is in it, those of other namespaces aside. -/
def names (ns : Namespace) : List String := [ns.name] ++ ns.infos.flatMap Info.names

/-- The exported names of the functions of a namespace. -/
def symbols (ns : Namespace) : List String :=
  ns.infos.flatMap fun info => info.functions.map (·.symbol)

/-- The namespaces that mentioned types are said to belong to. -/
def homes (ns : Namespace) : List String := ns.references.filterMap (·.home)

end Namespace

namespace Scope

open Binding

/-- The names and the symbols are words, and so are the modules that foreign types are found in. -/
structure Worded (strict : Prop) (U : String → String → Prop) (s : Scope) : Prop where
  names : ∀ n ∈ s.space.names, Word strict n
  symbols : ∀ n ∈ s.space.symbols, Word strict n
  homes : ∀ r ∈ s.space.references, ∀ home, s.foreignHome? r = some home →
    Uncommented ((s.config.depFor? home).getD home).toList ∧
      U (s.qualified home r) ("super::" ++ s.moduleOf home)

section
variable {strict : Prop} {U : String → String → Prop} {s : Scope} {info : Info}

/-- A module is named after a dependency, or after the namespace itself. -/
theorem dependency_mem {mentioned : List Reference} {r : Reference} {home : String}
    (hr : r ∈ mentioned) (hhome : s.foreignHome? r = some home) :
    (s.config.depFor? home).getD home ∈ mentioned.filterMap (·.home) ++ s.config.deps := by
  cases hdep : s.config.depFor? home with
  | some dep => exact List.mem_append_right _ (List.mem_of_find?_eq_some hdep)
  | none =>
      refine List.mem_append_left _ (List.mem_filterMap.mpr ⟨r, hr, ?_⟩)
      exact (Option.filter_eq_some_iff.mp hhome).1

namespace Worded

theorem word_name (h : s.Worded strict U) (hinfo : info ∈ s.space.infos) {n : String}
    (hn : n ∈ info.names) : Word strict n :=
  h.names n (List.mem_append_right _ (List.mem_flatMap.mpr ⟨info, hinfo, hn⟩))

theorem spells (h : s.Worded strict U) (hinfo : info ∈ s.space.infos) {t : NativeType}
    (ht : t ∈ info.types) : Spells strict U s t := by
  intro r hr
  have hmem : r ∈ info.references := List.mem_flatMap.mpr ⟨t, ht, hr⟩
  have hname : Word strict r.name := by
    refine h.word_name hinfo (List.mem_append_right _ ?_)
    exact List.mem_map.mpr ⟨r, hmem, rfl⟩
  exact ⟨hname, woven_typeName hname (h.homes r (List.mem_flatMap.mpr ⟨info, hinfo, hmem⟩))⟩

/-- A function of the namespace is generated from its words. -/
theorem named (h : s.Worded strict U) {start : Counters} {f : Function} {site : Site}
    (hmem : (f, site) ∈ emitted (itemsFrom (Env.of s) 0 start s.space.infos).1) :
    Named strict U (Env.of s) f site := by
  obtain ⟨info, hinfo, hf, hcontainer⟩ : ∃ info ∈ s.space.infos, f ∈ info.functions ∧
      ∀ p, site.container = some p → p.2.name = info.name := by
    have hpoints : site.PointsTo s.space.infos f := pointsTo_of_mem (mem_emitted.mp hmem)
    unfold Site.PointsTo at hpoints
    split at hpoints
    · next hnone =>
        exact ⟨_, List.mem_of_getElem? hpoints, List.mem_singleton.mpr rfl, by simp [hnone]⟩
    · next kind c hsome =>
        refine ⟨_, List.mem_of_getElem? hpoints.1, List.mem_of_getElem? hpoints.2, fun p hp => ?_⟩
        obtain rfl := Option.some.inj (hsome.symm.trans hp)
        rfl
  have htypes := Info.types_of_mem_functions hf
  have hsignature := Info.signature_of_mem_functions hf
  constructor
  case name =>
    refine h.word_name hinfo ?_
    simp only [Info.names, List.mem_append]
    exact .inl (.inl (.inr (List.mem_map.mpr ⟨f, hf, rfl⟩)))
  case symbol =>
    exact h.symbols _
      (List.mem_flatMap.mpr ⟨info, hinfo, List.mem_map.mpr ⟨f, hf, rfl⟩⟩)
  case args =>
    intro a ha
    refine ⟨h.word_name hinfo (Info.arg_mem_names hsignature ha), h.spells hinfo (htypes ?_)⟩
    exact List.mem_cons_of_mem _ (List.mem_map.mpr ⟨a, ha, rfl⟩)
  case returns => exact h.spells hinfo (htypes List.mem_cons_self)
  case container =>
    intro p hp
    rw [hcontainer p hp]
    exact h.word_name hinfo Info.name_mem_names

end Worded

end

end Scope

end Introspect
