import Introspect.Proofs.Documents

/-!
# Members of objects

What a reader finds in an object depends on what stands under each of the names it knows, and on
nothing else: not on the order of the members, nor on those of other names.
-/

namespace Introspect.Json

/-- What stands in an object under a name, in order. -/
def column (name : String) (ms : List (String × Json)) : List Json :=
  ms.filterMap fun m => if m.1 = name then some m.2 else none

section
variable {name other : String} {j : Json} {ms ms' : List (String × Json)}

theorem column_cons_self : column name ((name, j) :: ms) = j :: column name ms := by
  simp [column]

theorem column_cons_ne (h : other ≠ name) : column name ((other, j) :: ms) = column name ms := by
  simp [column, h]

theorem column_append : column name (ms ++ ms') = column name ms ++ column name ms' :=
  List.filterMap_append

theorem column_perm (h : ms.Perm ms') : (column name ms).Perm (column name ms') :=
  h.filterMap _

theorem column_filter {p : String × Json → Bool} (h : ∀ m, m.1 = name → p m = true) :
    column name (ms.filter p) = column name ms := by
  rw [column, List.filterMap_filter, column]
  refine List.filterMap_congr fun m _ => ?_
  by_cases hm : m.1 = name
  · rw [if_pos (h m hm)]
  · rw [if_neg hm, ite_self]

theorem column_eq_nil (h : ∀ m ∈ ms, m.1 ≠ name) : column name ms = [] := by
  rw [column, List.filterMap_eq_nil_iff]
  exact fun m hm => if_neg (h m hm)

theorem mem_column : j ∈ column name ms ↔ (name, j) ∈ ms := by
  rw [column, List.mem_filterMap]
  constructor
  · rintro ⟨⟨key, x⟩, hm, h⟩
    obtain ⟨hkey, hx⟩ := Option.ite_none_right_eq_some.mp h
    rwa [← hkey, ← Option.some.inj hx]
  · exact fun h => ⟨_, h, if_pos rfl⟩

theorem count_names : (ms.map Prod.fst).count name = (column name ms).length := by
  induction ms with
  | nil => rfl
  | cons m rest ih =>
      obtain ⟨key, x⟩ := m
      by_cases h : key = name
      · subst h
        rw [List.map_cons, List.count_cons_self, column_cons_self, List.length_cons, ih]
      · rw [List.map_cons, List.count_cons_of_ne h, column_cons_ne h, ih]

theorem lookup_eq_head? : ms.lookup name = (column name ms).head? := by
  induction ms with
  | nil => rfl
  | cons m rest ih =>
      obtain ⟨key, x⟩ := m
      rw [lookup_cons_eq_ite]
      by_cases h : name = key
      · subst h
        rw [if_pos rfl, column_cons_self, List.head?_cons]
      · rw [if_neg h, column_cons_ne (Ne.symm h), ih]

end

section
variable {names : List String} {ms : List (String × Json)}

/-- A name that occurs no more than once stands for what is found under it. -/
theorem column_eq_toList_lookup {name : String} (h : (column name ms).length ≤ 1) :
    column name ms = (ms.lookup name).toList := by
  rw [lookup_eq_head?]
  match hc : column name ms with
  | [] => rfl
  | [x] => rfl
  | x :: y :: rest =>
      rw [hc] at h
      exact absurd h (by simp)

/-- The fields of an object are its members of known names, none of which may occur twice. -/
theorem fields?_eq_some_iff {fs : Fields} : fields? names (.object ms) = some fs ↔
    (∀ name ∈ names, (column name ms).length ≤ 1) ∧ fs = ms.filter fun m => names.contains m.1 := by
  have hcolumn : ∀ name ∈ names,
      column name (ms.filter fun m => names.contains m.1) = column name ms := fun name hname =>
    column_filter fun m hm => List.contains_iff_mem.mpr (hm ▸ hname)
  have hdistinct : distinct ((ms.filter fun m => names.contains m.1).map Prod.fst) = true ↔
      ∀ name ∈ names, (column name ms).length ≤ 1 := by
    rw [distinct_iff, List.nodup_iff_count]
    constructor
    · intro h name hname
      rw [← hcolumn name hname, ← count_names]
      exact h name
    · intro h name
      by_cases hname : name ∈ names
      · rw [count_names, hcolumn name hname]
        exact h name hname
      · rw [List.count_eq_zero_of_not_mem]
        · exact Nat.zero_le 1
        · intro hmem
          obtain ⟨m, hm, rfl⟩ := List.mem_map.mp hmem
          exact hname (List.contains_iff_mem.mp (List.mem_filter.mp hm).2)
  unfold fields?
  dsimp only
  split
  · next h => rw [Option.some.injEq, and_iff_right (hdistinct.mp h), eq_comm]
  · next h => exact ⟨nofun, fun hall => absurd (hdistinct.mpr hall.1) h⟩

theorem lookup_fields {fs : Fields} (h : fields? names (.object ms) = some fs) {name : String}
    (hname : name ∈ names) : column name ms = (fs.lookup name).toList := by
  obtain ⟨honce, rfl⟩ := fields?_eq_some_iff.mp h
  have hcolumn : column name (ms.filter fun m => names.contains m.1) = column name ms :=
    column_filter fun m hm => List.contains_iff_mem.mpr (hm ▸ hname)
  rw [← hcolumn]
  exact column_eq_toList_lookup (hcolumn ▸ honce name hname)

/-- The fields of an object are an object of these fields. -/
theorem fields?_fields {fs : Fields} (h : fields? names (.object ms) = some fs) :
    fields? names (.object fs) = some fs := by
  obtain ⟨honce, rfl⟩ := fields?_eq_some_iff.mp h
  refine fields?_eq_some_iff.mpr ⟨fun name hname => ?_, ?_⟩
  · rw [column_filter fun m hm => List.contains_iff_mem.mpr (hm ▸ hname)]
    exact honce name hname
  · rw [List.filter_filter]
    simp only [Bool.and_self]

theorem nodup_fields {fs : Fields} (h : fields? names (.object ms) = some fs) :
    (fs.map Prod.fst).Nodup := by
  obtain ⟨hdistinct, hfs⟩ := Option.ite_none_right_eq_some.mp h
  rw [← Option.some.inj hfs]
  exact distinct_iff.mp hdistinct

/-- A field does not nest as deep as its record. -/
theorem depth_lt_of_fields? {j y : Json} {fs : Fields} {name : String}
    (hfs : j.fields? names = some fs) (hy : fs.lookup name = some y) : y.depth < j.depth := by
  have hmem := mem_of_lookup hy
  cases j with
  | object ms =>
      obtain ⟨-, rfl⟩ := fields?_eq_some_iff.mp hfs
      exact depth_lt_of_mem_members (Nat.lt_succ_self _) _ (List.mem_filter.mp hmem).1
  | list xs =>
      obtain ⟨-, hzip⟩ := Option.ite_none_right_eq_some.mp hfs
      rw [← Option.some.inj hzip] at hmem
      exact depth_lt_of_mem_items (Nat.lt_succ_self _) _ (List.of_mem_zip hmem).2
  | null | bool b | number n | text s => cases hfs

end

end Introspect.Json

namespace Introspect

/-! ## Types without fuel -/

namespace NativeType

/-- A type from its fields, by a decoder of its element type. -/
def ofFieldsWith? (elem : Json → Option NativeType) (fs : Json.Fields) : Option NativeType := do
  let s ← shapeOf? fs
  match ← fs.optional "elem_type" elem with
  | none => return .plain s
  | some e => return .of s e

theorem ofJsonWithin?_succ (fuel : Nat) (j : Json) : ofJsonWithin? (fuel + 1) j =
    (j.fields? fieldNames).bind (ofFieldsWith? (ofJsonWithin? fuel)) := rfl

/-- Only the element type that is there is decoded. -/
theorem bind_ofFieldsWith?_congr {j : Json} {elem elem' : Json → Option NativeType}
    (h : ∀ y, y.depth < j.depth → elem y = elem' y) :
    (j.fields? fieldNames).bind (ofFieldsWith? elem) =
      (j.fields? fieldNames).bind (ofFieldsWith? elem') := by
  cases hfs : j.fields? fieldNames with
  | none => rfl
  | some fs =>
      have hfield : Json.Fields.optional fs "elem_type" elem =
          Json.Fields.optional fs "elem_type" elem' := by
        unfold Json.Fields.optional
        cases hy : fs.lookup "elem_type" with
        | none => rfl
        | some y =>
            have helem := h y (Json.depth_lt_of_fields? hfs hy)
            cases y with
            | null => rfl
            | bool b | number n | text s | list xs | object ms =>
                exact congrArg (Option.map some) helem
      rw [Option.bind_some, Option.bind_some, ofFieldsWith?, ofFieldsWith?, hfield]

/-- Any fuel beyond the depth is enough. -/
theorem ofJsonWithin?_eq {n : Nat} : ∀ {m : Nat} {j : Json}, j.depth < n → j.depth < m →
    ofJsonWithin? n j = ofJsonWithin? m j := by
  induction n with
  | zero => intro m j hn _; exact absurd hn (Nat.not_lt_zero _)
  | succ n ih =>
      intro m j hn hm
      cases m with
      | zero => exact absurd hm (Nat.not_lt_zero _)
      | succ m =>
          rw [ofJsonWithin?_succ, ofJsonWithin?_succ]
          exact bind_ofFieldsWith?_congr fun y hy => ih (by omega) (by omega)

/-- A type is a record one of whose fields is a type. -/
theorem ofJson?_eq (j : Json) :
    ofJson? j = (j.fields? fieldNames).bind (ofFieldsWith? ofJson?) := by
  rw [ofJson?, ofJsonWithin?_succ]
  exact bind_ofFieldsWith?_congr fun y hy => ofJsonWithin?_eq hy (Nat.lt_succ_self _)

end NativeType

/-! ## Symbols with one kind -/

/-- A symbol from an object in which its kind stands once. -/
def Info.ofTagged? : Json → Option Info
  | .object ms => if (Json.column "kind" ms).length = 1 then ofJson? (.object ms) else none
  | _ => none

/-- A namespace from its fields, its symbols read as they are told to be. -/
def Namespace.ofFieldsWith? (symbol : Json → Option Info) (fs : Json.Fields) :
    Option Namespace := do
  return {
    name := ← fs.required "namespace" Json.text?
    version := ← fs.required "version" Json.text?
    sharedLibrary := ← fs.optional "shared_library" Json.text?
    cPrefix := ← fs.optional "c_prefix" Json.text?
    infos := ← fs.default "infos" [] (readAll symbol) }

/-- The names of the fields that a document is read from. -/
def Namespace.fieldNames : List String :=
  ["namespace", "version", "shared_library", "c_prefix", "infos"]

/-- A namespace each of whose symbols is an object in which its kind stands once. -/
def Namespace.ofTagged? (j : Json) : Option Namespace :=
  (j.fields? fieldNames).bind (ofFieldsWith? Info.ofTagged?)

theorem Info.ofJson?_of_ofTagged? {i : Info} {j : Json} (h : ofTagged? j = some i) :
    ofJson? j = some i := by
  cases j with
  | object ms => exact (Option.ite_none_right_eq_some.mp h).2
  | null | bool b | number n | text s | list xs => cases h

theorem readAll_of_readAll {α : Type} {decode decode' : Json → Option α} {j : Json} {xs : List α}
    (hdecode : ∀ {j x}, decode j = some x → decode' j = some x) (h : readAll decode j = some xs) :
    readAll decode' j = some xs := by
  cases j with
  | list js =>
      change js.mapM decode = some xs at h
      show js.mapM decode' = some xs
      induction js generalizing xs with
      | nil => exact h
      | cons y rest ih =>
          rw [List.mapM_cons] at h ⊢
          simp only [Option.bind_eq_bind, Option.bind_eq_some_iff] at h ⊢
          obtain ⟨x, hx, xs, hxs, h⟩ := h
          exact ⟨x, hdecode hx, xs, ih hxs, h⟩
  | null | bool b | number n | text s | object ms => cases h

/-- Symbols in which the kind stands once are symbols. -/
theorem Namespace.ofFields?_of_ofTagged? {ns : Namespace} {fs : Json.Fields}
    (h : ofFieldsWith? Info.ofTagged? fs = some ns) : ofFields? fs = some ns := by
  show ofFieldsWith? Info.ofJson? fs = some ns
  simp only [ofFieldsWith?, Option.bind_eq_bind, Option.bind_eq_some_iff] at h ⊢
  obtain ⟨name, hname, version, hversion, library, hlibrary, cPrefix, hprefix, infos,
    hinfos, h⟩ := h
  refine ⟨name, hname, version, hversion, library, hlibrary, cPrefix, hprefix, infos, ?_, h⟩
  unfold Json.Fields.default at hinfos ⊢
  cases hj : fs.lookup "infos" with
  | none => rwa [hj] at hinfos
  | some j =>
      rw [hj] at hinfos
      exact readAll_of_readAll Info.ofJson?_of_ofTagged? hinfos

theorem Info.ofTagged?_toJson {i : Info} (hi : i.Fits) : ofTagged? i.toJson = some i := by
  refine Option.ite_none_right_eq_some.mpr ⟨?_, ofJson?_toJson hi⟩
  rw [Json.column_cons_self, Json.column_eq_nil i.ne_kind_of_mem_members]
  rfl

theorem Namespace.ofTagged?_toJson {ns : Namespace} (h : ns.Fits) :
    ofTagged? ns.toJson = some ns := by
  have hns := ns.written_fields
  have hfields : ns.toJson.fields? fieldNames = some _ := hns.fields?
  rw [ofTagged?, hfields]
  simp only [ofFieldsWith?, Option.bind_eq_bind, Option.bind_some,
    hns.text "namespace" rfl,
    hns.text "version" rfl,
    hns.optionalText "shared_library" rfl,
    hns.optionalText "c_prefix" rfl,
    hns.default "infos" [] rfl (readAll_map fun i hi => Info.ofTagged?_toJson (h i hi))]
  rfl

end Introspect
