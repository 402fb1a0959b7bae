import Introspect.Proofs.Records

/-!
# Documents decoded

What is written of a description is decoded as the description, record by record, from the types up
to the namespace. Positions, counts and values have to be words; everything else, the names of the
closed sets, the fields that are left out and the constants whose kind is not written, decodes by
itself.
-/

namespace Introspect

open Json (Fields)

/-! ## Sizes -/

/-- Positions and counts are words. -/
def Shape.Fits (s : Shape) : Prop :=
  (∀ n ∈ s.lengthArg, n ≤ countMax) ∧ ∀ n ∈ s.fixedSize, n ≤ countMax

/-- The positions and counts in a type are words. -/
def NativeType.Fits : NativeType → Prop
  | .plain s => s.Fits
  | .of s e => s.Fits ∧ e.Fits

/-- The positions and counts in an argument are words. -/
def Argument.Fits (a : Argument) : Prop :=
  a.type.Fits ∧ (∀ n ∈ a.closure, n ≤ countMax) ∧ ∀ n ∈ a.destroy, n ≤ countMax

/-- The positions and counts in a function are words. -/
def Function.Fits (f : Function) : Prop := (∀ a ∈ f.args, a.Fits) ∧ f.returns.Fits

/-- The positions and counts in a callback are words. -/
def Callback.Fits (c : Callback) : Prop := (∀ a ∈ c.args, a.Fits) ∧ c.returns.Fits

/-- The value of a member is that of a word. -/
def EnumMember.Fits (m : EnumMember) : Prop :=
  Int64.minValue.toInt ≤ m.value ∧ m.value ≤ Int64.maxValue.toInt

/-- The value of a constant is that of a word, where it is an integer. -/
def ConstantValue.Fits : ConstantValue → Prop
  | .int i => Int64.minValue.toInt ≤ i ∧ i ≤ Int64.maxValue.toInt
  | _ => True

/-- Every integer in a symbol is that of a word. -/
def Info.Fits : Info → Prop
  | .function f => f.Fits
  | .callback c => c.Fits
  | .container _ c => ∀ f ∈ c.methods, f.Fits
  | .enum e | .flags e => ∀ m ∈ e.values, m.Fits
  | .constant c => ∀ v ∈ c.value, v.Fits

/-- Every position, count and value of the namespace is a word. -/
def Namespace.Fits (ns : Namespace) : Prop := ∀ info ∈ ns.infos, info.Fits

/-! ## Types -/

theorem readCount_nat {n : Nat} (h : n ≤ countMax) : readCount (.nat n) = some n := by
  rw [readCount, Json.natUpTo?, Json.nat, Json.intIn?, if_pos (by omega)]
  rfl

theorem Tag.ofJson?_name (t : Tag) : Tag.ofJson? (.text t.name) = some t := by
  cases t <;> rfl

theorem ReferenceKind.ofJson?_name (k : ReferenceKind) :
    ReferenceKind.ofJson? (.text k.name) = some k := by
  cases k <;> rfl

theorem ArrayKind.ofJson?_name (k : ArrayKind) : ArrayKind.ofJson? (.text k.name) = some k := by
  cases k <;> rfl

theorem Direction.ofJson?_name (d : Direction) : Direction.ofJson? (.text d.name) = some d := by
  cases d <;> rfl

theorem Transfer.ofJson?_name (t : Transfer) : Transfer.ofJson? (.text t.name) = some t := by
  cases t <;> rfl

theorem CallbackScope.ofJson?_name (s : CallbackScope) :
    CallbackScope.ofJson? (.text s.name) = some s := by
  cases s <;> rfl

theorem Reference.ofJson?_toJson (r : Reference) : Reference.ofJson? r.toJson = some r := by
  have h : Written [("kind", some (.text r.kind.name)), ("name", some (.text r.name)),
      ("namespace", r.home.map .text)] ["kind", "name", "namespace"] := written rfl (by decide)
  rw [Reference.toJson, Reference.ofJson?, h.fields?]
  simp only [Option.bind_eq_bind, Option.bind_some,
    h.required "kind" rfl (ReferenceKind.ofJson?_name r.kind),
    h.text "name" rfl,
    h.optionalText "namespace" rfl]
  rfl

namespace NativeType

theorem toJson_eq (t : NativeType) : t.toJson = shapeJson t.shape (t.elem?.map toJson) := by
  cases t with
  | plain s => rfl
  | of s e => rfl

theorem toJson_ne_null (t : NativeType) : t.toJson ≠ .null := by
  rw [toJson_eq]
  nofun

/-- The fields a type is written with, present or not. -/
def fields (s : Shape) (elem : Option Json) : List (String × Option Json) :=
  [("tag", some (.text s.tag.name)), ("is_pointer", some (.bool s.isPointer)), ("elem_type", elem),
    ("array_length", s.lengthArg.map .nat), ("array_fixed_size", s.fixedSize.map .nat),
    ("zero_terminated", some (.bool s.zeroTerminated)),
    ("array_kind", some (.text s.arrayKind.name)), ("interface", s.reference.map (·.toJson))]

theorem shapeJson_eq (s : Shape) (elem : Option Json) :
    shapeJson s elem = .object (writeFields (fields s elem)) := rfl

/-- The fields of a type are read back, if its element type is. -/
theorem ofJsonWithin?_shapeJson {s : Shape} (elem : Option NativeType) {fuel : Nat} (hs : s.Fits)
    (helem : ∀ e ∈ elem, ofJsonWithin? fuel e.toJson = some e) :
    ofJsonWithin? (fuel + 1) (shapeJson s (elem.map toJson)) =
      some (match elem with
        | none => .plain s
        | some e => .of s e) := by
  have h : Written (fields s (elem.map toJson)) fieldNames := written rfl (by decide)
  rw [shapeJson_eq, ofJsonWithin?, h.fields?]
  simp only [shapeOf?, Option.bind_eq_bind, Option.bind_some,
    h.required "tag" rfl (Tag.ofJson?_name s.tag),
    h.flag "is_pointer" rfl,
    h.optional "array_length" rfl (fun _ => nofun) fun n hn => readCount_nat (hs.1 n hn),
    h.optional "array_fixed_size" rfl (fun _ => nofun) fun n hn => readCount_nat (hs.2 n hn),
    h.flag "zero_terminated" rfl,
    h.default "array_kind" .c rfl (ArrayKind.ofJson?_name s.arrayKind),
    h.optional "interface" rfl (fun _ => nofun) fun r _ => Reference.ofJson?_toJson r,
    h.optional "elem_type" rfl toJson_ne_null helem]
  cases elem <;> rfl

/-- Element types nest no deeper than the value they are written in. -/
theorem ofJsonWithin?_toJson {fuel : Nat} : ∀ {t : NativeType}, t.Fits → t.toJson.depth < fuel →
    ofJsonWithin? fuel t.toJson = some t := by
  induction fuel with
  | zero => intro t _ h; exact absurd h (Nat.not_lt_zero _)
  | succ fuel ih =>
      intro t ht hdepth
      cases t with
      | plain s => exact ofJsonWithin?_shapeJson none ht fun _ => nofun
      | of s e =>
          refine ofJsonWithin?_shapeJson (some e) ht.1 fun e' he' => ?_
          cases he'
          have hmem : ("elem_type", e.toJson) ∈ writeFields (fields s (some e.toJson)) :=
            mem_writeFields.mpr (by simp [fields])
          rw [toJson, shapeJson_eq, Json.depth] at hdepth
          exact ih ht.2 (Json.depth_lt_of_mem_members (Nat.lt_of_succ_lt_succ hdepth) _ hmem)

theorem ofJson?_toJson {t : NativeType} (h : t.Fits) : ofJson? t.toJson = some t :=
  ofJsonWithin?_toJson h (Nat.lt_succ_self _)

end NativeType

/-! ## Callables -/

theorem Argument.ofJson?_toJson {a : Argument} (ha : a.Fits) : ofJson? a.toJson = some a := by
  have h : Written [("name", some (.text a.name)), ("direction", some (.text a.direction.name)),
      ("type", some a.type.toJson), ("transfer", some (.text a.transfer.name)),
      ("caller_allocates", some (.bool a.callerAllocates)), ("nullable", some (.bool a.nullable)),
      ("optional", some (.bool a.isOptional)), ("closure", a.closure.map .nat),
      ("destroy", a.destroy.map .nat), ("scope", some (.text a.scope.name))] fieldNames :=
    written rfl (by decide)
  rw [toJson, ofJson?, h.fields?]
  simp only [Option.bind_eq_bind, Option.bind_some,
    h.text "name" rfl,
    h.default "direction" .in rfl (Direction.ofJson?_name a.direction),
    h.required "type" rfl (NativeType.ofJson?_toJson ha.1),
    h.default "transfer" .nothing rfl (Transfer.ofJson?_name a.transfer),
    h.flag "caller_allocates" rfl,
    h.flag "nullable" rfl,
    h.flag "optional" rfl,
    h.optional "closure" rfl (fun _ => nofun) fun n hn => readCount_nat (ha.2.1 n hn),
    h.optional "destroy" rfl (fun _ => nofun) fun n hn => readCount_nat (ha.2.2 n hn),
    h.default "scope" .invalid rfl (CallbackScope.ofJson?_name a.scope)]
  rfl

theorem FunctionFlags.ofJson?_toJson (f : FunctionFlags) : ofJson? f.toJson = some f := by
  have h : Written [("is_method", some (.bool f.isMethod)),
      ("is_constructor", some (.bool f.isConstructor)), ("throws", some (.bool f.throws))]
      ["is_method", "is_constructor", "throws"] := written rfl (by decide)
  have hfields : f.toJson.fields? ["is_method", "is_constructor", "throws"] = some _ := h.fields?
  rw [ofJson?, hfields]
  simp only [Option.bind_eq_bind, Option.bind_some,
    h.flag "is_method" rfl,
    h.flag "is_constructor" rfl,
    h.flag "throws" rfl]
  rfl

theorem Function.ofJson?_members {f : Function} (hf : f.Fits) :
    ofJson? (.object f.members) = some f := by
  have h : Written (f.members.map fun m => (m.1, some m.2)) fieldNames := written rfl (by decide)
  rw [← writeFields_map_some f.members, ofJson?, h.fields?]
  simp only [ofFields?, Option.bind_eq_bind, Option.bind_some,
    h.text "name" rfl,
    h.text "symbol" rfl,
    h.default "flags" {} rfl (FunctionFlags.ofJson?_toJson f.flags),
    h.flag "deprecated" rfl,
    h.default "args" [] rfl (readAll_map fun a ha => Argument.ofJson?_toJson (hf.1 a ha)),
    h.default "return_type" .void rfl (NativeType.ofJson?_toJson hf.2),
    h.default "return_transfer" .nothing rfl (Transfer.ofJson?_name f.returnTransfer),
    h.flag "may_return_null" rfl,
    h.flag "skip_return" rfl]
  rfl

theorem Callback.ofFields?_members {c : Callback} (hc : c.Fits) :
    (Json.fields? fieldNames (.object c.members)).bind ofFields? = some c := by
  have h : Written (c.members.map fun m => (m.1, some m.2)) fieldNames := written rfl (by decide)
  rw [← writeFields_map_some c.members, h.fields?]
  simp only [ofFields?, Option.bind_eq_bind, Option.bind_some,
    h.text "name" rfl,
    h.default "args" [] rfl (readAll_map fun a ha => Argument.ofJson?_toJson (hc.1 a ha)),
    h.default "return_type" .void rfl (NativeType.ofJson?_toJson hc.2),
    h.default "return_transfer" .nothing rfl (Transfer.ofJson?_name c.returnTransfer),
    h.flag "deprecated" rfl]
  rfl

/-! ## Types with a name -/

theorem Container.ofFields?_members {c : Container} (hc : ∀ f ∈ c.methods, f.Fits) :
    (Json.fields? fieldNames (.object c.members)).bind ofFields? = some c := by
  have h : Written [("name", some (.text c.name)), ("type_init", c.typeInit.map .text),
      ("parent", c.parent.map .text),
      ("methods", some (.list (c.methods.map fun f => .object f.members))),
      ("deprecated", some (.bool c.deprecated))] fieldNames := written rfl (by decide)
  rw [members, h.fields?]
  simp only [ofFields?, Option.bind_eq_bind, Option.bind_some,
    h.text "name" rfl,
    h.optionalText "type_init" rfl,
    h.optionalText "parent" rfl,
    h.default "methods" [] rfl (readAll_map fun f hf => Function.ofJson?_members (hc f hf)),
    h.flag "deprecated" rfl]
  rfl

theorem EnumMember.ofJson?_toJson {m : EnumMember} (hm : m.Fits) : ofJson? m.toJson = some m := by
  have h : Written [("name", some (.text m.name)), ("value", some (.int m.value))]
      ["name", "value"] := written rfl (by decide)
  have hvalue : Json.intIn? Int64.minValue.toInt Int64.maxValue.toInt (.int m.value) =
      some m.value := by
    rw [Fits] at hm
    rw [Json.int, Json.intIn?, if_pos hm]
  have hfields : m.toJson.fields? ["name", "value"] = some _ := h.fields?
  rw [ofJson?, hfields]
  simp only [Option.bind_eq_bind, Option.bind_some,
    h.text "name" rfl, h.required "value" rfl hvalue]
  rfl

theorem Enumeration.ofFields?_members {e : Enumeration} (he : ∀ m ∈ e.values, m.Fits) :
    (Json.fields? fieldNames (.object e.members)).bind ofFields? = some e := by
  have h : Written [("name", some (.text e.name)), ("type_init", e.typeInit.map .text),
      ("values", some (.list (e.values.map (·.toJson)))),
      ("deprecated", some (.bool e.deprecated))] fieldNames := written rfl (by decide)
  rw [members, h.fields?]
  simp only [ofFields?, Option.bind_eq_bind, Option.bind_some,
    h.text "name" rfl,
    h.optionalText "type_init" rfl,
    h.default "values" [] rfl (readAll_map fun m hm => EnumMember.ofJson?_toJson (he m hm)),
    h.flag "deprecated" rfl]
  rfl

theorem ConstantValue.ofJson?_toJson {v : ConstantValue} (hv : v.Fits) :
    ofJson? v.toJson = some v := by
  cases v with
  | bool b => rfl
  | text s => rfl
  | float x => rfl
  | int i =>
      rw [Fits] at hv
      rw [toJson, Json.int, ofJson?, if_pos hv]

theorem Constant.ofFields?_members {c : Constant} (hc : ∀ v ∈ c.value, v.Fits) :
    (Json.fields? fieldNames (.object c.members)).bind ofFields? = some c := by
  have h : Written [("name", some (.text c.name)), ("value", c.value.map (·.toJson))]
      fieldNames := written rfl (by decide)
  rw [members, h.fields?]
  simp only [ofFields?, Option.bind_eq_bind, Option.bind_some,
    h.text "name" rfl,
    h.optional "value" rfl (fun v => by cases v <;> nofun)
      fun v hv => ConstantValue.ofJson?_toJson (hc v hv)]
  rfl

/-! ## Symbols and namespaces -/

/-- No symbol has a field of the name its kind is written under. -/
theorem Info.ne_kind_of_mem_members (i : Info) : ∀ m ∈ i.members, m.1 ≠ "kind" := by
  have hnames : ∀ (names : List String) {ms : List (String × Json)}, ms.map Prod.fst ⊆ names →
      "kind" ∉ names → ∀ m ∈ ms, m.1 ≠ "kind" := by
    intro names ms hsub hkind m hm heq
    exact hkind (heq ▸ hsub (List.mem_map_of_mem hm))
  cases i with
  | function f => exact hnames Function.fieldNames (List.Subset.refl _) (by decide)
  | callback c => exact hnames Callback.fieldNames (List.Subset.refl _) (by decide)
  | container k c =>
      exact hnames Container.fieldNames (names_writeFields _).subset (by decide)
  | enum e | flags e =>
      exact hnames Enumeration.fieldNames (names_writeFields _).subset (by decide)
  | constant c =>
      exact hnames Constant.fieldNames (names_writeFields _).subset (by decide)

theorem bind_return {α β γ : Type} {o : Option α} {f : α → Option β} {x : β} (g : β → γ)
    (h : o.bind f = some x) : (do return g (← f (← o))) = some (g x) := by
  obtain ⟨a, ha, hf⟩ := Option.bind_eq_some_iff.mp h
  rw [ha]
  show (f a).bind _ = _
  rw [hf]
  rfl

theorem Info.ofKind?_members {i : Info} (hi : i.Fits) :
    ofKind? i.kind.name (.object i.members) = some i := by
  cases i with
  | function f =>
      show (Function.ofJson? (.object f.members)).map Info.function = _
      rw [Function.ofJson?_members hi]
      rfl
  | callback c => exact bind_return Info.callback (Callback.ofFields?_members hi)
  | container k c =>
      cases k with
      | struct => exact bind_return (Info.container .struct) (Container.ofFields?_members hi)
      | union => exact bind_return (Info.container .union) (Container.ofFields?_members hi)
      | object => exact bind_return (Info.container .object) (Container.ofFields?_members hi)
      | interface => exact bind_return (Info.container .interface) (Container.ofFields?_members hi)
  | enum e => exact bind_return Info.enum (Enumeration.ofFields?_members hi)
  | flags e => exact bind_return Info.flags (Enumeration.ofFields?_members hi)
  | constant c => exact bind_return Info.constant (Constant.ofFields?_members hi)

theorem Info.ofJson?_toJson {i : Info} (hi : i.Fits) : ofJson? i.toJson = some i := by
  have hbody : i.members.filter (fun m => decide (m.1 ≠ "kind")) = i.members := by
    rw [List.filter_eq_self]
    exact fun m hm => decide_eq_true (ne_kind_of_mem_members i m hm)
  have hkind : List.lookup "kind" (("kind", Json.text i.kind.name) :: i.members) =
      some (.text i.kind.name) := by
    rw [List.lookup_cons, beq_self_eq_true]
  rw [toJson, ofJson?, hkind, List.filter_cons_of_neg (by simp), hbody]
  exact ofKind?_members hi

/-- The fields a namespace is written with, present or not. -/
def Namespace.fields (ns : Namespace) : List (String × Option Json) :=
  [("namespace", some (.text ns.name)), ("version", some (.text ns.version)),
    ("shared_library", ns.sharedLibrary.map .text), ("c_prefix", ns.cPrefix.map .text),
    ("infos", some (.list (ns.infos.map (·.toJson))))]

theorem Namespace.toJson_eq (ns : Namespace) : ns.toJson = .object (writeFields ns.fields) := rfl

theorem Namespace.written_fields (ns : Namespace) :
    Written ns.fields ["namespace", "version", "shared_library", "c_prefix", "infos"] :=
  written rfl (by decide)

end Introspect
