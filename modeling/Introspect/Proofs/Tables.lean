import Mathlib.Data.List.Basic

/-!
# Tables and logs

Registries and caches are lists of keys with their values; of several entries with one key the first
counts. A table answers for the keys it has, and forgetting one key leaves the answers for all
others as they were. What has been asked of a table is a log, which grows at its end.
-/

namespace Introspect

section Tables

variable {α β : Type} [BEq α] [LawfulBEq α] {k : α} {v : β} {l : List (α × β)}

theorem mem_of_lookup (h : l.lookup k = some v) : (k, v) ∈ l := by
  obtain ⟨l₁, l₂, rfl, -⟩ := List.lookup_eq_some_iff.mp h
  exact List.mem_append_right _ List.mem_cons_self

/-- A table answers for every key it has. -/
theorem exists_lookup (h : k ∈ l.map Prod.fst) : ∃ v, l.lookup k = some v := by
  obtain ⟨p, hp, rfl⟩ := List.mem_map.mp h
  exact Option.isSome_iff_exists.mp (List.lookup_isSome_iff.mpr ⟨p, hp, beq_self_eq_true _⟩)

theorem lookup_isSome_iff_mem : (l.lookup k).isSome = true ↔ k ∈ l.map Prod.fst :=
  ⟨fun h => by
    obtain ⟨v, hv⟩ := Option.isSome_iff_exists.mp h
    exact List.mem_map_of_mem (mem_of_lookup hv),
  fun h => Option.isSome_iff_exists.mpr (exists_lookup h)⟩

theorem lookup_eq_none_of_not_mem (h : k ∉ l.map Prod.fst) : l.lookup k = none := by
  cases hk : l.lookup k with
  | none => rfl
  | some v => exact absurd (List.mem_map_of_mem (mem_of_lookup hk)) h

theorem lookup_cons_eq_ite [DecidableEq α] {m : α} :
    ((k, v) :: l).lookup m = if m = k then some v else l.lookup m := by
  rw [List.lookup_cons]
  by_cases h : m = k
  · rw [if_pos h, h, beq_self_eq_true]
  · rw [if_neg h, beq_false_of_ne h]

/-- A table without repeated keys answers with all it has. -/
theorem mem_iff_lookup (hl : (l.map Prod.fst).Nodup) : (k, v) ∈ l ↔ l.lookup k = some v := by
  refine ⟨fun h => ?_, mem_of_lookup⟩
  obtain ⟨l₁, l₂, rfl⟩ := List.append_of_mem h
  refine List.lookup_eq_some_iff.mpr ⟨l₁, l₂, rfl, fun p hp => bne_iff_ne.mpr ?_⟩
  rintro rfl
  rw [List.map_append, List.nodup_append] at hl
  exact hl.2.2 p.1 (List.mem_map_of_mem hp) p.1 List.mem_cons_self rfl

theorem lookup_filter_self [DecidableEq α] : (l.filter fun x => x.1 ≠ k).lookup k = none := by
  apply lookup_eq_none_of_not_mem
  intro h
  obtain ⟨p, hp, heq⟩ := List.mem_map.mp h
  simp [heq] at hp

theorem filter_eq_self_of_lookup [DecidableEq α] (h : l.lookup k = none) :
    (l.filter fun x => x.1 ≠ k) = l := by
  rw [List.filter_eq_self]
  intro p hp
  have hne := bne_iff_ne.mp (List.lookup_eq_none_iff.mp h p hp)
  exact decide_eq_true hne.symm

theorem lookup_filter_ne [DecidableEq α] {m : α} (h : m ≠ k) :
    (l.filter fun x => x.1 ≠ k).lookup m = l.lookup m := by
  induction l with
  | nil => rfl
  | cons x rest ih =>
      obtain ⟨k', v⟩ := x
      by_cases hk : k' = k
      · rw [List.filter_cons_of_neg (by simp [hk]), ih, List.lookup_cons, hk, beq_false_of_ne h]
      · rw [List.filter_cons_of_pos (by simp [hk]), List.lookup_cons, List.lookup_cons, ih]

end Tables

section Logs

variable {α β : Type} {f : α → Option β} {log : List α} {e : α}

theorem filterMap_append_of_none (h : f e = none) :
    (log ++ [e]).filterMap f = log.filterMap f := by
  rw [List.filterMap_append, List.filterMap_cons_none h, List.filterMap_nil, List.append_nil]

theorem filterMap_append_of_some {b : β} (h : f e = some b) :
    (log ++ [e]).filterMap f = log.filterMap f ++ [b] := by
  rw [List.filterMap_append, List.filterMap_cons_some h, List.filterMap_nil]

/-- What a longer log is split at is its last entry, or what the log was split at before. -/
theorem append_singleton_eq_iff {before after : List α} {x : α} :
    log ++ [e] = before ++ x :: after ↔ (log = before ∧ e = x ∧ after = []) ∨
      ∃ after', log = before ++ x :: after' ∧ after = after' ++ [e] := by
  constructor
  · intro h
    rcases List.eq_nil_or_concat after with rfl | ⟨after', e', rfl⟩
    · obtain ⟨hlog, he⟩ := List.append_inj' h rfl
      exact .inl ⟨hlog, (List.cons.inj he).1, rfl⟩
    · rw [List.concat_eq_append, ← List.cons_append, ← List.append_assoc] at h
      obtain ⟨hlog, he⟩ := List.append_inj' h rfl
      obtain rfl := (List.cons.inj he).1
      exact .inr ⟨after', hlog, List.concat_eq_append⟩
  · rintro (⟨rfl, rfl, rfl⟩ | ⟨after', rfl, rfl⟩)
    · rfl
    · rw [List.append_assoc, List.cons_append]

end Logs

end Introspect
