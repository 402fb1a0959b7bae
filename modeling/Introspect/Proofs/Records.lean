import Introspect.Descriptor.Format
import Introspect.Proofs.Reading
import Introspect.Proofs.Tables

/-!
# Records written and read

The fields of a record are written in a fixed order, those that are absent left out. Reading looks
each one up by its name, and since no name occurs twice it finds what was written. The statements
here are about one field each, by the three ways a reader may ask for it; a record is then read back
field by field.
-/

namespace Introspect

open Json (Fields)

/-! ## Fields -/

theorem Json.distinct_iff {names : List String} : Json.distinct names = true ↔ names.Nodup := by
  induction names with
  | nil => simp [Json.distinct]
  | cons x rest ih => simp [Json.distinct, ih]

theorem writeFields_none (name : String) (rest : List (String × Option Json)) :
    writeFields ((name, none) :: rest) = writeFields rest := rfl

theorem writeFields_some (name : String) (j : Json) (rest : List (String × Option Json)) :
    writeFields ((name, some j) :: rest) = (name, j) :: writeFields rest := rfl

theorem writeFields_map_some (ms : List (String × Json)) :
    writeFields (ms.map fun m => (m.1, some m.2)) = ms := by
  induction ms with
  | nil => rfl
  | cons m rest ih => rw [List.map_cons, writeFields_some, ih]

theorem mem_writeFields {fields : List (String × Option Json)} {m : String × Json} :
    m ∈ writeFields fields ↔ (m.1, some m.2) ∈ fields := by
  rw [writeFields, List.mem_filterMap]
  constructor
  · rintro ⟨⟨name, o⟩, hmem, h⟩
    cases o with
    | none => cases h
    | some j =>
        cases h
        exact hmem
  · intro h
    exact ⟨_, h, rfl⟩

/-- Leaving fields out keeps the order of the others. -/
theorem names_writeFields (fields : List (String × Option Json)) :
    ((writeFields fields).map Prod.fst).Sublist (fields.map Prod.fst) := by
  induction fields with
  | nil => exact List.Sublist.slnil
  | cons f rest ih =>
      obtain ⟨name, o⟩ := f
      cases o with
      | none => exact ih.cons _
      | some j => exact ih.cons_cons _

/-- What is found under a name is what was to be written there. -/
theorem lookup_writeFields {fields : List (String × Option Json)} (name : String)
    (h : (fields.map Prod.fst).Nodup) :
    (writeFields fields).lookup name = (fields.lookup name).join := by
  induction fields with
  | nil => rfl
  | cons f rest ih =>
      obtain ⟨key, o⟩ := f
      rw [List.map_cons, List.nodup_cons] at h
      rw [List.lookup_cons]
      cases o with
      | some j =>
          rw [writeFields_some, List.lookup_cons, ih h.2]
          split <;> rfl
      | none =>
          rw [writeFields_none]
          split
          -- The field is absent, and no later one has its name.
          · next heq =>
              rw [eq_of_beq heq]
              exact lookup_eq_none_of_not_mem fun hmem =>
                h.1 ((names_writeFields rest).subset hmem)
          · exact ih h.2

/-- What is written of a record is found again under the names of its fields. -/
structure Written (fields : List (String × Option Json)) (names : List String) : Prop where
  fields? : Json.fields? names (.object (writeFields fields)) = some (writeFields fields)
  lookup : ∀ name, (writeFields fields).lookup name = (fields.lookup name).join

theorem written {fields : List (String × Option Json)} {names : List String}
    (hnames : fields.map Prod.fst = names) (hnodup : names.Nodup) : Written fields names := by
  subst hnames
  have hsub := names_writeFields fields
  constructor
  · have hknown : (writeFields fields).filter (fun m => (fields.map Prod.fst).contains m.1) =
        writeFields fields := by
      rw [List.filter_eq_self]
      intro m hm
      rw [List.contains_iff_mem]
      exact hsub.subset (List.mem_map_of_mem hm)
    rw [Json.fields?]
    simp only [hknown]
    rw [if_pos (Json.distinct_iff.mpr (hnodup.sublist hsub))]
  · exact fun name => lookup_writeFields name hnodup

namespace Written

variable {α : Type} {fields : List (String × Option Json)} {names : List String}
  {decode : Json → Option α} {j : Json} {x : α}

theorem required (h : Written fields names) (name : String)
    (hfield : (fields.lookup name).join = some j) (hx : decode j = some x) :
    Fields.required (writeFields fields) name decode = some x := by
  rw [Fields.required, h.lookup, hfield, Option.bind_some, hx]

theorem default (h : Written fields names) (name : String) (value : α)
    (hfield : (fields.lookup name).join = some j) (hx : decode j = some x) :
    Fields.default (writeFields fields) name value decode = some x := by
  rw [Fields.default, h.lookup, hfield]
  exact hx

/-- An optional field is only mistaken for an absent one if it is written as `null`. -/
theorem optional {encode : α → Json} {o : Option α} (h : Written fields names) (name : String)
    (hfield : (fields.lookup name).join = o.map encode) (hnull : ∀ a, encode a ≠ .null)
    (hx : ∀ a ∈ o, decode (encode a) = some a) :
    Fields.optional (writeFields fields) name decode = some o := by
  rw [Fields.optional, h.lookup, hfield]
  cases o with
  | none => rfl
  | some a =>
      rw [Option.map_some]
      split
      · next heq => cases heq
      · next heq => exact absurd (Option.some.inj heq) (hnull a)
      · next heq =>
          cases heq
          rw [hx a rfl]
          rfl

theorem text {s : String} (h : Written fields names) (name : String)
    (hfield : (fields.lookup name).join = some (.text s)) :
    Fields.required (writeFields fields) name Json.text? = some s :=
  h.required name hfield rfl

theorem flag {b : Bool} (h : Written fields names) (name : String)
    (hfield : (fields.lookup name).join = some (.bool b)) :
    Fields.default (writeFields fields) name false Json.bool? = some b :=
  h.default name false hfield rfl

theorem optionalText {o : Option String} (h : Written fields names) (name : String)
    (hfield : (fields.lookup name).join = o.map .text) :
    Fields.optional (writeFields fields) name Json.text? = some o :=
  h.optional name hfield (fun _ => nofun) fun _ _ => rfl

end Written

/-! ## Lists -/

theorem isSome_mapM_iff {α β : Type} {f : α → Option β} {xs : List α} :
    (xs.mapM f).isSome ↔ ∀ x ∈ xs, (f x).isSome := by
  induction xs with
  | nil => simp
  | cons x rest ih =>
      rw [List.forall_mem_cons, ← ih, List.mapM_cons]
      cases f x with
      | none => simp
      | some y => cases rest.mapM f <;> simp

theorem readAll_map {α : Type} {encode : α → Json} {decode : Json → Option α} {xs : List α}
    (h : ∀ x ∈ xs, decode (encode x) = some x) :
    readAll decode (.list (xs.map encode)) = some xs := by
  show (xs.map encode).mapM decode = some xs
  induction xs with
  | nil => rfl
  | cons x rest ih =>
      rw [List.forall_mem_cons] at h
      rw [List.map_cons, List.mapM_cons, h.1, ih h.2]
      rfl

/-! ## Exact values -/

theorem Json.exact_nat {n : Nat} (h : n ≤ countMax) : (Json.nat n).Exact := by
  show Json.IsWord n
  rw [Json.IsWord, Json.wordMax]
  exact ⟨by omega, Int.ofNat_le.mpr h⟩

theorem Json.exact_int {i : Int} (h : Int64.minValue.toInt ≤ i ∧ i ≤ Int64.maxValue.toInt) :
    (Json.int i).Exact := by
  rw [show Int64.minValue.toInt = -0x8000000000000000 by decide,
    show Int64.maxValue.toInt = 0x7fffffffffffffff by decide] at h
  show Json.IsWord i
  rw [Json.IsWord, show (Json.wordMax : Int) = 0xffffffffffffffff by decide]
  omega

theorem Json.exact_list_map {α : Type} {encode : α → Json} {xs : List α}
    (h : ∀ x ∈ xs, (encode x).Exact) : (Json.list (xs.map encode)).Exact := by
  rw [Json.Exact, Json.exactItems_iff, List.forall_mem_map]
  exact h

theorem exactMembers_writeFields {fields : List (String × Option Json)}
    (h : ∀ f ∈ fields, ∀ j ∈ f.2, j.Exact) : Json.ExactMembers (writeFields fields) := by
  rw [Json.exactMembers_iff]
  intro m hm
  exact h _ (mem_writeFields.mp hm) m.2 rfl

end Introspect
