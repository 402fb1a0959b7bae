import Introspect.Proofs.Tables
import Introspect.Text.Case

/-!
# ASCII in the case tables

Most names are written in ASCII. There the mappings of Unicode are the plain ones: one run has the
26 letters, every other entry of a table lies beyond, and no character depends on its neighbours.
-/

namespace Introspect.Text

variable {c : Char}

/-- What holds of each of the 128 characters holds of all. -/
theorem of_ascii {P : Char → Prop} (h : ∀ n < 128, P (Char.ofNat n)) (hc : c.toNat < 128) :
    P c := by
  have hn := h c.toNat hc
  rwa [Char.ofNat_toNat] at hn

theorem toNat_lt_of_isAlphanum (h : c.isAlphanum = true) : c.toNat < 128 := by
  have hbelow : ∀ high : Char, c.val ≤ high.val → high.toNat < 128 → c.toNat < 128 := fun _ h =>
    Nat.lt_of_le_of_lt (UInt32.le_iff_toNat_le.mp h)
  rcases Bool.or_eq_true_iff.mp h with hletter | hdigit
  · rcases Bool.or_eq_true_iff.mp hletter with hupper | hlower
    · exact hbelow 'Z' (of_decide_eq_true hupper).2 (by decide)
    · exact hbelow 'z' (of_decide_eq_true (Bool.and_eq_true_iff.mp hlower).2) (by decide)
  · exact hbelow '9' (of_decide_eq_true (Bool.and_eq_true_iff.mp hdigit).2) (by decide)

/-! ## Characters -/

/-- The image of a character, when all other runs lie elsewhere. -/
def CaseRun.apply (r : CaseRun) (c : Char) : Char := ((r.map? c.toNat).map Char.ofNat).getD c

/-- Only the first run of a table decides. -/
theorem mapThrough_of_ascii {runs : List CaseRun} {wide : List (Nat × List Nat)} {run : CaseRun}
    (hrun : runs.head? = some run) (hruns : ∀ r ∈ runs.tail, 128 ≤ r.first)
    (hwide : ∀ p ∈ wide, 128 ≤ p.1) (hc : c.toNat < 128) :
    mapThrough runs wide c = [run.apply c] := by
  obtain ⟨rest, rfl⟩ := List.head?_eq_some_iff.mp hrun
  have hrest : rest.findSome? (·.map? c.toNat) = none := by
    refine List.findSome?_eq_none_iff.mpr fun r hr => if_neg ?_
    have hfirst := hruns r hr
    rw [Bool.and_eq_true, Bool.and_eq_true, decide_eq_true_eq]
    omega
  have hlookup : wide.lookup c.toNat = none := by
    refine lookup_eq_none_of_not_mem fun hmem => ?_
    obtain ⟨p, hp, heq⟩ := List.mem_map.mp hmem
    have hfirst := hwide p hp
    omega
  rw [mapThrough, CaseRun.apply, List.findSome?_cons, hrest]
  cases run.map? c.toNat with
  | none => rw [hlookup]; rfl
  | some n => rfl

theorem upperChar_of_ascii (hc : c.toNat < 128) : upperChar c = [c.toUpper] := by
  have hletters : CaseRun.apply ⟨0x61, 0x7A, 1, -32⟩ c = c.toUpper :=
    of_ascii (P := fun c => CaseRun.apply _ c = c.toUpper) (by decide +kernel) hc
  rw [← hletters]
  exact mapThrough_of_ascii rfl (by decide +kernel) (by decide +kernel) hc

theorem lowerChar_of_ascii (hc : c.toNat < 128) : lowerChar c = [c.toLower] := by
  have hletters : CaseRun.apply ⟨0x41, 0x5A, 1, 32⟩ c = c.toLower :=
    of_ascii (P := fun c => CaseRun.apply _ c = c.toLower) (by decide +kernel) hc
  rw [← hletters]
  exact mapThrough_of_ascii rfl (by decide +kernel) (by decide) hc

theorem isUpper_of_ascii (hc : c.toNat < 128) : isUpper c = c.isUpper :=
  of_ascii (P := fun c => isUpper c = c.isUpper) (by decide +kernel) hc

/-! ## Texts -/

theorem lowerFrom_of_ascii {cs : List Char} (h : ∀ c ∈ cs, c.toNat < 128) :
    ∀ before, lowerFrom before cs = cs.map Char.toLower := by
  induction cs with
  | nil => intro _; rfl
  | cons c cs ih =>
      intro before
      rw [List.forall_mem_cons] at h
      -- A sigma alone looks at what stands around it.
      have hsigma : c ≠ 'Σ' := fun heq => absurd h.1 (heq ▸ by decide)
      rw [lowerFrom, lowerBetween, if_neg hsigma, lowerChar_of_ascii h.1, ih h.2,
        List.singleton_append, List.map_cons]

end Introspect.Text
