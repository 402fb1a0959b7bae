import Introspect.Binding.Function

/-!
# Renamed functions

A function whose native name cannot stand in generated code is renamed: one that a file or a
container has already gets a suffix, and a keyword is escaped, or gets an underscore where no escape
exists. Neither an escape nor such an ending is found in a name that has to be renamed. So no two
names are renamed to one, and what comes out would not be renamed again.

What a name is renamed to is not looked for among the other functions, though. A function that is
natively called so keeps its name, and the two become one (`Renamed`). No other two ever do.
-/

namespace Introspect.Binding

open Naming (itemName keywords rawless)

/-- What a function with a native name is called. -/
def givenName (inContainer : Bool) (name : String) : String :=
  itemName (if (takenNames inContainer).contains name then name ++ "_f" else name)

theorem hostName_eq (f : Function) (inContainer : Bool) :
    hostName f inContainer = givenName inContainer f.name := rfl

/-- The native names that are not kept. -/
def unfit (inContainer : Bool) : List String := takenNames inContainer ++ keywords

/-- The one name is unfit, and the other is what it is renamed to. -/
def Renamed (inContainer : Bool) (name other : String) : Prop :=
  (name ∈ takenNames inContainer ∧ other = name ++ "_f") ∨
    (name ∈ rawless ∧ other = name ++ "_") ∨
    (name ∈ keywords ∧ name ∉ rawless ∧ other = "r#" ++ name)

instance (inContainer : Bool) (name other : String) : Decidable (Renamed inContainer name other) :=
  inferInstanceAs (Decidable (_ ∨ _ ∨ _))

/-! ## Unfit names -/

theorem rawless_subset : rawless ⊆ keywords := by decide

theorem not_keyword_of_taken :
    ∀ c, ∀ name ∈ takenNames c, name ∉ keywords ∧ name ++ "_f" ∉ keywords := by
  decide +kernel

/-- No unfit name looks like a renamed one. -/
theorem plain_of_unfit : ∀ c, ∀ name ∈ unfit c, '#' ∉ name.toList ∧
    name.toList.getLast? ≠ some '_' ∧ ¬ ['_', 'f'] <:+ name.toList := by
  decide +kernel

section
variable {c : Bool} {a b x : String}

/-- A name that is fit is kept. -/
theorem givenName_of_not_mem (h : a ∉ unfit c) : givenName c a = a := by
  obtain ⟨htaken, hkeyword⟩ := not_or.mp (mt List.mem_append.mpr h)
  have hraw : a ∉ rawless := fun hraw => hkeyword (rawless_subset hraw)
  rw [givenName, if_neg (by simpa using htaken), itemName, if_neg (by simpa using hraw),
    if_neg (by simpa using hkeyword)]

theorem givenName_of_taken (h : a ∈ takenNames c) : givenName c a = a ++ "_f" := by
  have hkeyword := (not_keyword_of_taken c a h).2
  have hraw : a ++ "_f" ∉ rawless := fun hraw => hkeyword (rawless_subset hraw)
  rw [givenName, if_pos (by simpa using h), itemName, if_neg (by simpa using hraw),
    if_neg (by simpa using hkeyword)]

theorem givenName_of_rawless (h : a ∈ rawless) : givenName c a = a ++ "_" := by
  have htaken : a ∉ takenNames c := fun htaken =>
    (not_keyword_of_taken c a htaken).1 (rawless_subset h)
  rw [givenName, if_neg (by simpa using htaken), itemName, if_pos (by simpa using h)]

theorem givenName_of_keyword (h : a ∈ keywords) (hraw : a ∉ rawless) :
    givenName c a = "r#" ++ a := by
  have htaken : a ∉ takenNames c := fun htaken => (not_keyword_of_taken c a htaken).1 h
  rw [givenName, if_neg (by simpa using htaken), itemName, if_neg (by simpa using hraw),
    if_pos (by simpa using h)]

theorem renamed_givenName (h : a ∈ unfit c) : Renamed c a (givenName c a) := by
  rcases List.mem_append.mp h with htaken | hkeyword
  · exact .inl ⟨htaken, givenName_of_taken htaken⟩
  · by_cases hraw : a ∈ rawless
    · exact .inr (.inl ⟨hraw, givenName_of_rawless hraw⟩)
    · exact .inr (.inr ⟨hkeyword, hraw, givenName_of_keyword hkeyword hraw⟩)

/-! ## Renamed names -/

/-- The characters of the name that was renamed. -/
def formerName (cs : List Char) : List Char :=
  if '#' ∈ cs then cs.drop 2
  else if cs.getLast? = some '_' then cs.dropLast
  else cs.dropLast.dropLast

namespace Renamed

theorem mem_unfit (h : Renamed c a x) : a ∈ unfit c := by
  rw [unfit, List.mem_append]
  rcases h with ⟨htaken, -⟩ | ⟨hraw, -⟩ | ⟨hkeyword, -, -⟩
  · exact .inl htaken
  · exact .inr (rawless_subset hraw)
  · exact .inr hkeyword

theorem eq_givenName (h : Renamed c a x) : x = givenName c a := by
  rcases h with ⟨htaken, rfl⟩ | ⟨hraw, rfl⟩ | ⟨hkeyword, hraw, rfl⟩
  · exact (givenName_of_taken htaken).symm
  · exact (givenName_of_rawless hraw).symm
  · exact (givenName_of_keyword hkeyword hraw).symm

theorem not_mem_unfit (h : Renamed c a x) : x ∉ unfit c := by
  intro hx
  obtain ⟨hescape, hlast, hsuffix⟩ := plain_of_unfit c x hx
  rcases h with ⟨-, rfl⟩ | ⟨-, rfl⟩ | ⟨-, -, rfl⟩
  · exact hsuffix (String.toList_append ▸ List.suffix_append _ _)
  · exact hlast (by simp)
  · exact hescape (by simp)

theorem formerName_eq (h : Renamed c a x) : formerName x.toList = a.toList := by
  have hescape := (plain_of_unfit c a h.mem_unfit).1
  rcases h with ⟨-, rfl⟩ | ⟨-, rfl⟩ | ⟨-, -, rfl⟩
  · rw [String.toList_append, formerName, if_neg (by simpa using hescape), if_neg (by simp),
      List.dropLast_append_of_ne_nil (by decide), List.dropLast_append_of_ne_nil (by decide)]
    exact List.append_nil _
  · rw [String.toList_append, formerName, if_neg (by simpa using hescape), if_pos (by simp),
      List.dropLast_append_of_ne_nil (by decide)]
    exact List.append_nil _
  · rw [String.toList_append, formerName, if_pos (by simp)]
    rfl

/-- How a name was renamed shows in what it was renamed to. -/
theorem left_unique (ha : Renamed c a x) (hb : Renamed c b x) : a = b :=
  String.toList_inj.mp (ha.formerName_eq.symm.trans hb.formerName_eq)

end Renamed

/-- What is given out is fit. -/
theorem givenName_not_mem : givenName c a ∉ unfit c := by
  by_cases h : a ∈ unfit c
  · exact (renamed_givenName h).not_mem_unfit
  · rwa [givenName_of_not_mem h]

/-- Names meet only where one of them is what the other is renamed to. -/
theorem givenName_eq_iff :
    givenName c a = givenName c b ↔ a = b ∨ Renamed c a b ∨ Renamed c b a := by
  have hback : ∀ {a b}, Renamed c a b → givenName c a = givenName c b := fun h => by
    rw [givenName_of_not_mem h.not_mem_unfit, ← h.eq_givenName]
  constructor
  · intro h
    by_cases ha : a ∈ unfit c
    · by_cases hb : b ∈ unfit c
      · exact .inl ((h ▸ renamed_givenName ha).left_unique (renamed_givenName hb))
      · rw [givenName_of_not_mem hb] at h
        exact .inr (.inl (h ▸ renamed_givenName ha))
    · rw [givenName_of_not_mem ha] at h
      by_cases hb : b ∈ unfit c
      · exact .inr (.inr (h ▸ renamed_givenName hb))
      · rw [givenName_of_not_mem hb] at h
        exact .inl h
  · rintro (rfl | h | h)
    · rfl
    · exact hback h
    · exact (hback h).symm

end

/-! ## Functions -/

/-- The functions that stand in one place have names of their own there. -/
def NamesApart (inContainer : Bool) (fs : List Function) : Prop :=
  ∀ f ∈ fs, ∀ g ∈ fs, f.name ≠ g.name → hostName f inContainer ≠ hostName g inContainer

/-- No function is natively called what another one is renamed to. -/
def NoneRenamed (inContainer : Bool) (fs : List Function) : Prop :=
  ∀ f ∈ fs, ∀ g ∈ fs, ¬ Renamed inContainer f.name g.name

instance (inContainer : Bool) (fs : List Function) : Decidable (NoneRenamed inContainer fs) :=
  inferInstanceAs (Decidable (∀ f ∈ fs, _))

theorem namesApart_iff {inContainer : Bool} {fs : List Function} :
    NamesApart inContainer fs ↔ NoneRenamed inContainer fs := by
  constructor
  · intro h f hf g hg hrenamed
    have hname : f.name ≠ g.name := fun heq =>
      hrenamed.not_mem_unfit (heq ▸ hrenamed.mem_unfit)
    refine h f hf g hg hname ?_
    rw [hostName_eq, hostName_eq, givenName_eq_iff]
    exact .inr (.inl hrenamed)
  · intro h f hf g hg hname heq
    rw [hostName_eq, hostName_eq, givenName_eq_iff] at heq
    rcases heq with heq | hrenamed | hrenamed
    · exact hname heq
    · exact h f hf g hg hrenamed
    · exact h g hg f hf hrenamed

theorem hostName_not_mem (f : Function) (inContainer : Bool) :
    hostName f inContainer ∉ takenNames inContainer := by
  rw [hostName_eq]
  exact fun h => givenName_not_mem (List.mem_append_left _ h)

/-- The functions of a namespace that stand in no container. -/
def topLevel (space : Namespace) : List Function := space.infos.filterMap Info.function?

/-- In a file and in each of its containers, functions of different names are called differently
just when none of them is natively called what another one is renamed to. None is called like what
the file or the container has already. -/
theorem namesApart_iff_noneRenamed (space : Namespace) :
    (NamesApart false (topLevel space) ↔ NoneRenamed false (topLevel space)) ∧
    (∀ f ∈ topLevel space, hostName f false ∉ ["init", "destroy_notify"]) ∧
    ∀ kind c, Info.container kind c ∈ space.infos →
      (NamesApart true c.methods ↔ NoneRenamed true c.methods) ∧
      ∀ f ∈ c.methods, hostName f true ∉ ["get_type", "wrap_object"] :=
  ⟨namesApart_iff, fun f _ => hostName_not_mem f false, fun _ _ _ =>
    ⟨namesApart_iff, fun f _ => hostName_not_mem f true⟩⟩

/-- A container whose methods have names that are taken. -/
def wheel : Container where
  name := "Wheel"
  methods := [{ name := "self", symbol := "demo_wheel_self" },
    { name := "get_type", symbol := "demo_wheel_type" },
    { name := "init", symbol := "demo_wheel_init" }]

/-- Keywords and taken names, at top level and in a container. -/
def steered : Namespace where
  name := "Demo"
  version := "1.0"
  infos := [.function { name := "move", symbol := "demo_move" },
    .function { name := "init", symbol := "demo_init" }, .container .object wheel]

theorem namesApart_steered :
    NamesApart false (topLevel steered) ∧ Info.container .object wheel ∈ steered.infos ∧
      NamesApart true wheel.methods := by
  obtain ⟨htop, -, hcontainers⟩ := namesApart_iff_noneRenamed steered
  have hwheel : Info.container .object wheel ∈ steered.infos :=
    List.mem_of_getElem? (i := 2) rfl
  exact ⟨htop.mpr (by decide +kernel), hwheel, (hcontainers _ _ hwheel).1.mpr (by decide +kernel)⟩

/-- A function that has to be renamed, and one that is called so. -/
def restarted : Namespace where
  name := "Demo"
  version := "1.0"
  infos := [.function { name := "init", symbol := "demo_init" },
    .function { name := "init_f", symbol := "demo_init_f" }]

theorem not_namesApart_restarted : ¬ NamesApart false (topLevel restarted) := by
  intro h
  exact h { name := "init", symbol := "demo_init" } (by decide)
    { name := "init_f", symbol := "demo_init_f" } (by decide) (by decide) (by decide)

end Introspect.Binding
