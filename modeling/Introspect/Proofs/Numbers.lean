import Introspect.Proofs.Walk
import Mathlib.Data.List.Chain

/-!
# Numbers in ascending order

Both numberings of a walk ascend from the counter it starts from to the one it leaves, so neither
gives a number out twice, and nor do walks that each start where the one before stopped. Functions
take a number whether they are written or not, and so do types whether they get one or not: a type
that takes none is a struct that only serves another type.
-/

namespace Introspect.Binding

/-- The numbers ascend, from `low` on and below `high`. -/
structure Numbered (low high : UInt32) (ids : List UInt32) : Prop where
  le : low.toNat ≤ high.toNat
  ascending : ids.Pairwise (· < ·)
  bounds : ∀ id ∈ ids, low.toNat ≤ id.toNat ∧ id.toNat < high.toNat

namespace Numbered

theorem nil (n : UInt32) : Numbered n n [] := ⟨Nat.le_refl _, List.Pairwise.nil, nofun⟩

theorem append {low middle high : UInt32} {xs ys : List UInt32} (h : Numbered low middle xs)
    (h' : Numbered middle high ys) : Numbered low high (xs ++ ys) := by
  have hle := h.le
  have hle' := h'.le
  refine ⟨Nat.le_trans hle hle', List.pairwise_append.mpr ⟨h.ascending, h'.ascending, ?_⟩, ?_⟩
  · intro a ha b hb
    exact UInt32.lt_iff_toNat_lt.mpr (Nat.lt_of_lt_of_le (h.bounds a ha).2 (h'.bounds b hb).1)
  · intro id hid
    rcases List.mem_append.mp hid with hid | hid
    · have := h.bounds id hid
      omega
    · have := h'.bounds id hid
      omega

theorem nodup {low high : UInt32} {ids : List UInt32} (h : Numbered low high ids) : ids.Nodup :=
  h.ascending.imp UInt32.ne_of_lt

/-- Numberings that each start where the one before stopped make up one. -/
theorem flatMap {α : Type} {low high : α → UInt32} {ids : α → List UInt32} {xs : List α} :
    ∀ {x : α}, (x :: xs).IsChain (fun a b => low b = high a) →
      (∀ a ∈ x :: xs, Numbered (low a) (high a) (ids a)) →
        ∃ top, Numbered (low x) top ((x :: xs).flatMap ids) := by
  induction xs with
  | nil =>
      intro x _ h
      refine ⟨high x, ?_⟩
      rw [List.flatMap_singleton]
      exact h x List.mem_cons_self
  | cons y rest ih =>
      intro x hchain h
      rw [List.isChain_cons_cons] at hchain
      rw [List.forall_mem_cons] at h
      obtain ⟨top, hrest⟩ := ih hchain.2 h.2
      refine ⟨top, ?_⟩
      rw [List.flatMap_cons]
      rw [hchain.1] at hrest
      exact h.1.append hrest

theorem nodup_flatMap {α : Type} {low high : α → UInt32} {ids : α → List UInt32} {xs : List α}
    (hchain : xs.IsChain fun a b => low b = high a)
    (h : ∀ a ∈ xs, Numbered (low a) (high a) (ids a)) : (xs.flatMap ids).Nodup := by
  cases xs with
  | nil => exact List.nodup_nil
  | cons x rest =>
      obtain ⟨top, hids⟩ := flatMap hchain h
      exact hids.nodup

end Numbered

/-! ## Call sites -/

theorem Walked.numbered {n n' : Counters} {count : Nat} {items : List Item}
    (h : Walked n n' count items) :
    Numbered n.function n'.function ((emitted items).map fun call => call.2.id) := by
  refine ⟨?_, List.pairwise_map.mpr h.ascending, List.forall_mem_map.mpr h.bounds⟩
  rw [h.next]
  exact Nat.le_add_right _ _

/-! ## Types -/

/-- The number an item gets its runtime type by. -/
def Item.getType? : Item → Option UInt32
  | .container _ _ getType | .enumeration _ _ getType => getType
  | _ => none

/-- The numbers that some items get their runtime types by. -/
def typeIds (items : List Item) : List UInt32 := items.filterMap Item.getType?

/-- Whether a symbol is given a number for its runtime type. -/
def takesType (s : Scope) : Info → Bool
  | .container kind c => (ignoredReason? s c kind).isNone
  | .enum _ | .flags _ => true
  | .function _ | .callback _ | .constant _ => false

theorem typeIds_functionItem {s : Scope} {f : Function} {index methodIndex : Nat}
    {container : Option (ContainerKind × Introspect.Container)} {n : Counters} :
    (functionItem s f index methodIndex container n).1.getType? = none := by
  unfold functionItem
  dsimp only
  split <;> rfl

theorem typeIds_methodItems (s : Scope) (kind : ContainerKind) (c : Introspect.Container)
    (index : Nat) (fs : List Function) : ∀ (i : Nat) (n : Counters),
    typeIds (methodItems s kind c index i n fs).1 = [] ∧
      (methodItems s kind c index i n fs).2.getType = n.getType := by
  induction fs with
  | nil => exact fun _ _ => ⟨rfl, rfl⟩
  | cons f rest ih =>
      intro i n
      obtain ⟨hids, hnext⟩ := ih (i + 1) (functionItem s f index i (some (kind, c)) n).2
      rw [methodItems]
      refine ⟨?_, hnext⟩
      rw [typeIds, List.filterMap_cons_none typeIds_functionItem]
      exact hids

/-- What the walk over some symbols does with the counter for types: `count` of them take a
number. -/
structure Typed (n n' : Counters) (count : Nat) (items : List Item) : Prop where
  next : n'.getType.toNat = n.getType.toNat + count
  numbered : Numbered n.getType n'.getType (typeIds items)

namespace Typed

theorem of_none {n n' : Counters} {items : List Item} (hn : n'.getType = n.getType)
    (h : typeIds items = []) : Typed n n' 0 items := by
  constructor
  · rw [hn, Nat.add_zero]
  · rw [hn, h]
    exact .nil _

theorem append {n m n' : Counters} {k l : Nat} {xs ys : List Item} (h : Typed n m k xs)
    (h' : Typed m n' l ys) : Typed n n' (k + l) (xs ++ ys) := by
  constructor
  · rw [h'.next, h.next, Nat.add_assoc]
  · rw [typeIds, List.filterMap_append]
    exact h.numbered.append h'.numbered

end Typed

theorem typed_takeGetType {s : Scope} {name : String} {typeInit : Option String} {n : Counters}
    {item : Item} (h : n.getType.toNat + 1 < 2 ^ 32)
    (hitem : item.getType? = (takeGetType s name typeInit n).1) :
    Typed n (takeGetType s name typeInit n).2 1 [item] := by
  have hnext : (n.getType + 1).toNat = n.getType.toNat + 1 := by
    rw [UInt32.toNat_add, UInt32.toNat_one, Nat.mod_eq_of_lt h]
  have hids : ∀ id ∈ typeIds [item], id = n.getType := by
    intro id hid
    obtain ⟨x, hx, hid⟩ := List.mem_filterMap.mp hid
    cases List.mem_singleton.mp hx
    rw [hitem, takeGetType] at hid
    dsimp only at hid
    split at hid
    · cases hid
    · exact (Option.some.inj hid).symm
  have hascending : (typeIds [item]).Pairwise (· < ·) := by
    rw [typeIds, List.filterMap_cons]
    split
    · exact List.Pairwise.nil
    · exact List.pairwise_singleton _ _
  have hle : n.getType.toNat ≤ (n.getType + 1).toNat := by omega
  refine ⟨hnext, hle, hascending, fun id hid => ?_⟩
  rw [hids id hid]
  refine ⟨Nat.le_refl _, ?_⟩
  show n.getType.toNat < (n.getType + 1).toNat
  omega

theorem typed_infoItems {e : Env} {n : Counters} (index : Nat) (info : Info)
    (h : n.getType.toNat + (takesType e.scope info).toNat < 2 ^ 32) :
    Typed n (infoItems e index info n).2 (takesType e.scope info).toNat
      (infoItems e index info n).1 := by
  unfold infoItems
  cases info with
  | function f =>
      refine .of_none rfl ?_
      exact List.filterMap_cons_none typeIds_functionItem
  | callback cb =>
      dsimp only
      split
      · exact .of_none rfl rfl
      · exact .of_none rfl rfl
  | container kind c =>
      rw [takesType] at h ⊢
      dsimp only
      cases hreason : ignoredReason? e.scope c kind with
      | some reason => exact .of_none rfl rfl
      | none =>
          rw [hreason] at h
          have hmethods := typeIds_methodItems e.scope kind c index c.methods 0
            (takeGetType e.scope c.name c.typeInit n).2
          have htype : Typed n (takeGetType e.scope c.name c.typeInit n).2 1
              [.container kind c (takeGetType e.scope c.name c.typeInit n).1] :=
            typed_takeGetType h rfl
          exact htype.append (.of_none hmethods.2 hmethods.1)
  | enum en => exact typed_takeGetType h rfl
  | flags en => exact typed_takeGetType h rfl
  | constant c => exact .of_none rfl rfl

/-- The walk takes one number for each type that takes one. -/
theorem typed_itemsFrom {e : Env} {infos : List Info} : ∀ (index : Nat) {n : Counters},
    n.getType.toNat + infos.countP (takesType e.scope) < 2 ^ 32 →
      Typed n (itemsFrom e index n infos).2 (infos.countP (takesType e.scope))
        (itemsFrom e index n infos).1 := by
  induction infos with
  | nil => intro index n h; exact .of_none rfl rfl
  | cons info rest ih =>
      intro index n h
      have hcount : (info :: rest).countP (takesType e.scope) =
          (takesType e.scope info).toNat + rest.countP (takesType e.scope) := by
        rw [List.countP_cons, Nat.add_comm]
        cases takesType e.scope info <;> rfl
      rw [hcount] at h ⊢
      have hhere : Typed n (infoItems e index info n).2 (takesType e.scope info).toNat
          (infoItems e index info n).1 := typed_infoItems index info (by omega)
      refine hhere.append (ih (index + 1) ?_)
      rw [hhere.next]
      omega

end Introspect.Binding
