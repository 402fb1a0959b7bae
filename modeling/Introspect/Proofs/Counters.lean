import Introspect.Binding.Config
import Introspect.Proofs.Records

/-!
# Counters read back

The counters of a run are left in a file as a record of three fields. Whatever the namespace is
called and wherever the counters stand, they are read back from it.
-/

namespace Introspect.Progress

theorem counter?_nat (n : UInt32) : counter? (.nat n.toNat) = some n := by
  have hn : n.toNat ≤ counterMax := Nat.le_pred_of_lt n.toNat_lt
  rw [counter?, Json.natUpTo?, Json.nat, Json.intIn?, if_pos (by omega)]
  exact congrArg some (UInt32.ofNat_toNat)

/-- The fields that the counters are written in. -/
def fields (p : Progress) : List (String × Option Json) :=
  [("prevNamespace", some (.text p.namespaceName)),
    ("funcNextId", some (.nat p.nextFunction.toNat)),
    ("getTypeNextId", some (.nat p.nextGetType.toNat))]

theorem toJson_eq (p : Progress) : p.toJson = .object (writeFields p.fields) := rfl

theorem written_fields (p : Progress) : Written p.fields fieldNames := written rfl (by decide)

theorem ofFields?_writeFields (p : Progress) : ofFields? (writeFields p.fields) = some p := by
  have h := p.written_fields
  simp only [ofFields?, Option.bind_eq_bind, Option.bind_some,
    h.default "prevNamespace" "" rfl (show Json.text? (.text p.namespaceName) = some _ from rfl),
    h.default "funcNextId" 0 rfl (counter?_nat p.nextFunction),
    h.default "getTypeNextId" 0 rfl (counter?_nat p.nextGetType)]
  rfl

theorem ofJson?_toJson (p : Progress) : ofJson? p.toJson = some p := by
  rw [ofJson?, toJson_eq, p.written_fields.fields?, Option.bind_some, ofFields?_writeFields]

theorem exact_toJson (p : Progress) : p.toJson.Exact := by
  have hcounter : ∀ n : UInt32, (Json.nat n.toNat).Exact := fun n =>
    Json.exact_nat (Nat.le_trans (Nat.le_of_lt n.toNat_lt) (by decide))
  exact ⟨trivial, hcounter _, hcounter _, trivial⟩

theorem reads_toJson (p : Progress) : reader.Reads Json.nestingLimit p.toJson := by
  have hcounter : ∀ n : UInt32, n.toNat ≤ counterMax := fun n => Nat.le_pred_of_lt n.toNat_lt
  refine Json.Reader.reads_record (show 0 < 127 by decide) ?_ ?_ ?_
  · simp only [List.forall_mem_cons]
    exact ⟨⟨_, rfl, Json.Reader.reads_text _ _⟩,
      ⟨_, rfl, Json.Reader.reads_natUpTo _ (hcounter _)⟩,
      ⟨_, rfl, Json.Reader.reads_natUpTo _ (hcounter _)⟩, nofun⟩
  · exact (by decide : fieldNames.Nodup)
  · show (ofFields? (writeFields p.fields)).isSome = true
    rw [ofFields?_writeFields]
    rfl

/-- The counters are read back from what is written of them. -/
theorem ofText_render (p : Progress) : ofText p.render = .ok p := by
  rw [ofText, render, Json.read_pretty p.exact_toJson p.reads_toJson, Json.ok_bind,
    ofJson?_toJson]

end Introspect.Progress
