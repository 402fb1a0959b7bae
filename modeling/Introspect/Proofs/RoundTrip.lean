import Introspect.Proofs.Members

/-!
# Documents read back

A document is read back as the namespace it was written for. The text is scanned as the value that
was printed, which asks that its numbers are integers of a word; and the reader of the format lets
that value pass, which asks that it does not nest too deep. So only a constant that is a
floating-point number and the nesting of element types stand against it.
-/

namespace Introspect

/-- The constant is no floating-point number. -/
def Info.FloatFree : Info → Prop
  | .constant c => ∀ x, c.value ≠ some (.float x)
  | _ => True

/-! ## Exact values -/

theorem Reference.exact_toJson (r : Reference) : r.toJson.Exact := by
  refine exactMembers_writeFields ?_
  simp [Json.Exact]

theorem NativeType.exact_shapeJson {s : Shape} {elem : Option Json} (hs : s.Fits)
    (helem : ∀ j ∈ elem, j.Exact) : (shapeJson s elem).Exact := by
  have hlength : ∀ n ∈ s.lengthArg, (Json.nat n).Exact := fun n hn => Json.exact_nat (hs.1 n hn)
  have hsize : ∀ n ∈ s.fixedSize, (Json.nat n).Exact := fun n hn => Json.exact_nat (hs.2 n hn)
  have hreference : ∀ r ∈ s.reference, r.toJson.Exact := fun r _ => r.exact_toJson
  refine exactMembers_writeFields ?_
  simpa [Json.Exact] using ⟨helem, hlength, hsize, hreference⟩

theorem NativeType.exact_toJson {t : NativeType} (h : t.Fits) : t.toJson.Exact := by
  induction t with
  | plain s => exact exact_shapeJson h fun _ => nofun
  | of s e ih =>
      refine exact_shapeJson h.1 fun j hj => ?_
      cases hj
      exact ih h.2

theorem Argument.exact_toJson {a : Argument} (h : a.Fits) : a.toJson.Exact := by
  have hclosure : ∀ n ∈ a.closure, (Json.nat n).Exact := fun n hn => Json.exact_nat (h.2.1 n hn)
  have hdestroy : ∀ n ∈ a.destroy, (Json.nat n).Exact := fun n hn => Json.exact_nat (h.2.2 n hn)
  refine exactMembers_writeFields ?_
  simpa [Json.Exact] using ⟨NativeType.exact_toJson h.1, hclosure, hdestroy⟩

theorem Function.exactMembers_members {f : Function} (h : f.Fits) :
    Json.ExactMembers f.members := by
  have hargs := Json.exact_list_map fun a ha => Argument.exact_toJson (h.1 a ha)
  simpa [members, Json.ExactMembers, Json.Exact, FunctionFlags.toJson] using
    ⟨hargs, NativeType.exact_toJson h.2⟩

theorem Callback.exactMembers_members {c : Callback} (h : c.Fits) :
    Json.ExactMembers c.members := by
  have hargs := Json.exact_list_map fun a ha => Argument.exact_toJson (h.1 a ha)
  simpa [members, Json.ExactMembers, Json.Exact] using ⟨hargs, NativeType.exact_toJson h.2⟩

theorem Container.exactMembers_members {c : Container} (h : ∀ f ∈ c.methods, f.Fits) :
    Json.ExactMembers c.members := by
  have hmethods : (Json.list (c.methods.map fun f => .object f.members)).Exact :=
    Json.exact_list_map fun f hf => Function.exactMembers_members (h f hf)
  refine exactMembers_writeFields ?_
  simpa [Json.Exact] using hmethods

theorem Enumeration.exactMembers_members {e : Enumeration} (h : ∀ m ∈ e.values, m.Fits) :
    Json.ExactMembers e.members := by
  have hvalues : (Json.list (e.values.map (·.toJson))).Exact :=
    Json.exact_list_map fun m hm => ⟨trivial, Json.exact_int (h m hm), trivial⟩
  refine exactMembers_writeFields ?_
  simpa [Json.Exact] using hvalues

theorem Constant.exactMembers_members {c : Constant} (h : ∀ v ∈ c.value, v.Fits)
    (hfloat : ∀ x, c.value ≠ some (.float x)) : Json.ExactMembers c.members := by
  have hvalue : ∀ v ∈ c.value, v.toJson.Exact := by
    intro v hv
    cases v with
    | bool b => trivial
    | text s => trivial
    | float x => exact absurd hv (hfloat x)
    | int i => exact Json.exact_int (h _ hv)
  refine exactMembers_writeFields ?_
  simpa [Json.Exact] using hvalue

theorem Info.exact_toJson {i : Info} (h : i.Fits) (hfloat : i.FloatFree) : i.toJson.Exact := by
  refine ⟨trivial, ?_⟩
  cases i with
  | function f => exact Function.exactMembers_members h
  | callback c => exact Callback.exactMembers_members h
  | container k c => exact Container.exactMembers_members h
  | enum e | flags e => exact Enumeration.exactMembers_members h
  | constant c => exact Constant.exactMembers_members h hfloat

theorem Namespace.exact_toJson {ns : Namespace} (h : ns.Fits)
    (hfloat : ∀ info ∈ ns.infos, info.FloatFree) : ns.toJson.Exact := by
  have hinfos : (Json.list (ns.infos.map (·.toJson))).Exact :=
    Json.exact_list_map fun i hi => Info.exact_toJson (h i hi) (hfloat i hi)
  refine exactMembers_writeFields ?_
  simpa [Json.Exact] using hinfos

/-! ## Reading -/

theorem Json.eq_text_of_text? {j : Json} {s : String} (h : j.text? = some s) : j = .text s := by
  cases j with
  | text s =>
      cases h
      rfl
  | null | bool b | number n | list xs | object ms => cases h

theorem Info.contains_kindNames {kind : String} {j : Json} {i : Info}
    (h : ofKind? kind j = some i) : kindNames.contains kind = true := by
  unfold ofKind? at h
  split at h
  all_goals first | rfl | cases h

/-- A symbol that can be decoded is read, as long as its kind stands in it once. -/
theorem Info.reads_of_ofTagged? {i : Info} {j : Json} {depth : Nat} (h : ofTagged? j = some i)
    (hdepth : j.depth ≤ depth) : Info.reader.Reads (depth + 1) j := by
  cases j with
  | null | bool b | number n | text s | list xs => cases h
  | object ms =>
      obtain ⟨hone, hi⟩ := Option.ite_none_right_eq_some.mp h
      refine Json.Reader.reads_checked ?_ (Option.isSome_of_eq_some hi)
      obtain ⟨y, hy⟩ := List.length_eq_one_iff.mp hone
      rw [ofJson?, Json.lookup_eq_head?, hy, List.head?_cons, Option.bind_eq_bind,
        Option.bind_some] at hi
      obtain ⟨kind, hkind, hi⟩ := Option.bind_eq_some_iff.mp hi
      have htext : y = .text kind := Json.eq_text_of_text? hkind
      have htag : ∀ m ∈ ms, m.1 = "kind" → m.2 = .text kind := by
        rintro ⟨name, j⟩ hm rfl
        have hmem : j ∈ Json.column "kind" ms := Json.mem_column.mpr hm
        rw [hy, List.mem_singleton] at hmem
        exact hmem.trans htext
      refine Json.Reader.reads_tagged hdepth (contains_kindNames hi) htag ?_
      rw [Json.count_names, hone]

theorem exists_of_readAll {α : Type} {decode : Json → Option α} {j : Json} {ys : List α}
    (h : readAll decode j = some ys) :
    ∃ xs, j = .list xs ∧ ∀ x ∈ xs, ∃ y, decode x = some y := by
  cases j with
  | list xs =>
      have hall := isSome_mapM_iff.mp (Option.isSome_of_eq_some h)
      exact ⟨xs, rfl, fun x hx => Option.isSome_iff_exists.mp (hall x hx)⟩
  | null | bool b | number n | text s | object ms => cases h

namespace Json

variable {fs : Fields} {name : String} {j : Json} {depth : Nat}

theorem reads_of_required {s : String} (h : fs.required name text? = some s)
    (hj : fs.lookup name = some j) : Reader.text.Reads depth j := by
  rw [Fields.required, hj, Option.bind_some] at h
  rw [eq_text_of_text? h]
  exact Reader.reads_text depth s

theorem reads_of_optional {o : Option String} (h : fs.optional name text? = some o)
    (hj : fs.lookup name = some j) : (Reader.optional .text).Reads depth j := by
  rw [Fields.optional, hj] at h
  cases j with
  | null => rfl
  | text s => exact Reader.reads_optional (Reader.reads_text depth s)
  | bool b | number n | list xs | object ms => cases h

end Json

namespace Namespace

/-- The readers of the fields of a namespace. -/
def readers : List (String × Json.Reader) :=
  [("namespace", .text), ("version", .text), ("shared_library", .optional .text),
    ("c_prefix", .optional .text), ("infos", .list Info.reader)]

/-- The fields a namespace is decoded from have the shapes their readers ask for. -/
theorem reads_fields {ns : Namespace} {fs : Json.Fields} {name : String} {j : Json}
    {r : Json.Reader} {depth : Nat} (h : ofFieldsWith? Info.ofTagged? fs = some ns)
    (hj : fs.lookup name = some j) (hr : readers.lookup name = some r) (hdepth : j.depth < depth) :
    r.Reads depth j := by
  simp only [ofFieldsWith?, Option.bind_eq_bind, Option.bind_eq_some_iff] at h
  obtain ⟨_, hname, _, hversion, _, hlibrary, _, hprefix, _, hinfos, _⟩ := h
  have hmem := mem_of_lookup hr
  simp only [readers, List.mem_cons, List.not_mem_nil, or_false, Prod.mk.injEq] at hmem
  rcases hmem with ⟨rfl, rfl⟩ | ⟨rfl, rfl⟩ | ⟨rfl, rfl⟩ | ⟨rfl, rfl⟩ | ⟨rfl, rfl⟩
  · exact Json.reads_of_required hname hj
  · exact Json.reads_of_required hversion hj
  · exact Json.reads_of_optional hlibrary hj
  · exact Json.reads_of_optional hprefix hj
  · rw [Json.Fields.default, hj] at hinfos
    obtain ⟨xs, rfl, hall⟩ := exists_of_readAll hinfos
    rw [Json.depth] at hdepth
    obtain ⟨depth, rfl⟩ : ∃ d, depth = d + 2 := ⟨depth - 2, by omega⟩
    have hitems : Json.depthItems xs < depth + 1 := by omega
    refine Json.Reader.reads_list (Nat.succ_pos depth) fun x hx => ?_
    obtain ⟨i, hi⟩ := hall x hx
    exact Info.reads_of_ofTagged? hi (Nat.le_of_lt_succ (Json.depth_lt_of_mem_items hitems x hx))

end Namespace

/-- A namespace that can be decoded is read from any text that stands for it, as long as it does not
nest too deep and the kind of each symbol stands in it once. -/
theorem Namespace.parse_of_ofTagged? {ns : Namespace} {ms : List (String × Json)} {text : String}
    (h : ofTagged? (.object ms) = some ns) (hdepth : (Json.object ms).depth < Json.nestingLimit)
    (htext : Json.scan text.toList = ((Json.object ms).scanned, false)) : parse text = .ok ns := by
  obtain ⟨fs, hfs, htagged⟩ := Option.bind_eq_some_iff.mp h
  have hns : ofFields? fs = some ns := ofFields?_of_ofTagged? htagged
  have hnodup := Json.nodup_fields hfs
  have hknown : Json.Reader.knownOf readers ms = fs := by
    rw [(Json.fields?_eq_some_iff.mp hfs).2]
    refine List.filter_congr fun m _ => ?_
    rw [Bool.eq_iff_iff, List.contains_iff_mem, lookup_isSome_iff_mem]
    rfl
  have hread : ∀ m ∈ ms, ∀ r, readers.lookup m.1 = some r → r.Reads 127 m.2 := by
    intro m hm r hr
    have hmem : m ∈ fs := by
      rw [← hknown]
      exact List.mem_filter.mpr ⟨hm, Option.isSome_of_eq_some hr⟩
    have hlookup := (mem_iff_lookup hnodup).mp hmem
    refine reads_fields htagged hlookup hr ?_
    exact Nat.lt_of_lt_of_le (Json.depth_lt_of_fields? hfs hlookup) (Nat.le_of_lt_succ hdepth)
  have hcomplete : (ofFields? (Json.Reader.knownOf readers ms)).isSome = true := by
    rw [hknown]
    exact Option.isSome_of_eq_some hns
  have hrecord : reader Json.nestingLimit (Json.object ms).scanned = .ok (.object fs) := by
    rw [← hknown] at hnodup ⊢
    exact Json.Reader.record_scanned (by decide) hread hnodup hcomplete
  have hagain : ((Json.object fs).fields? fieldNames).bind ofFields? = some ns := by
    rw [Json.fields?_fields hfs, Option.bind_some, hns]
  rw [fieldNames] at hagain
  rw [parse, Json.read_of_scan htext hrecord, Json.ok_bind, hagain]

/-! ## Nesting -/

/-- How many element types stand around the innermost one. -/
def NativeType.nesting : NativeType → Nat
  | .plain _ => 0
  | .of _ e => e.nesting + 1

/-- The types of a symbol's arguments and results. -/
def Info.types : Info → List NativeType
  | .callback c => c.returns :: c.args.map (·.type)
  | i => i.functions.flatMap fun f => f.returns :: f.args.map (·.type)

theorem Json.depthMembers_le_iff {ms : List (String × Json)} {d : Nat} :
    depthMembers ms ≤ d ↔ ∀ m ∈ ms, m.2.depth ≤ d := by
  induction ms with
  | nil => simp [depthMembers]
  | cons m rest ih => rw [depthMembers, List.forall_mem_cons, ← ih, Nat.max_le]

theorem Json.depthItems_le_iff {xs : List Json} {d : Nat} :
    depthItems xs ≤ d ↔ ∀ x ∈ xs, x.depth ≤ d := by
  induction xs with
  | nil => simp [depthItems]
  | cons x rest ih => rw [depthItems, List.forall_mem_cons, ← ih, Nat.max_le]

theorem depthMembers_writeFields_le {fields : List (String × Option Json)} {d : Nat}
    (h : ∀ f ∈ fields, ∀ j ∈ f.2, j.depth ≤ d) : Json.depthMembers (writeFields fields) ≤ d := by
  rw [Json.depthMembers_le_iff]
  intro m hm
  exact h _ (mem_writeFields.mp hm) m.2 rfl

theorem Json.depth_list_map_le {α : Type} {encode : α → Json} {xs : List α} {d : Nat}
    (h : ∀ x ∈ xs, (encode x).depth ≤ d) : (Json.list (xs.map encode)).depth ≤ d + 1 := by
  rw [depth]
  refine Nat.succ_le_succ (depthItems_le_iff.mpr ?_)
  rw [List.forall_mem_map]
  exact h

theorem Reference.depth_toJson_le (r : Reference) : r.toJson.depth ≤ 1 := by
  rw [toJson, Json.depth]
  refine Nat.succ_le_succ (depthMembers_writeFields_le ?_)
  simp [Json.depth]

theorem NativeType.depth_toJson_le (t : NativeType) : t.toJson.depth ≤ t.nesting + 2 := by
  induction t with
  | plain s =>
      rw [toJson, shapeJson, Json.depth, nesting]
      refine Nat.succ_le_succ (depthMembers_writeFields_le ?_)
      simp [Json.depth, Json.nat, Reference.depth_toJson_le]
  | of s e ih =>
      have hreference : ∀ r : Reference, r.toJson.depth ≤ e.nesting + 2 := fun r => by
        have := r.depth_toJson_le
        omega
      rw [toJson, shapeJson, Json.depth, nesting]
      refine Nat.succ_le_succ (depthMembers_writeFields_le ?_)
      simp [Json.depth, Json.nat, ih, hreference]

theorem Argument.depth_toJson_le (a : Argument) : a.toJson.depth ≤ a.type.nesting + 3 := by
  rw [toJson, Json.depth]
  refine Nat.succ_le_succ (depthMembers_writeFields_le ?_)
  simp [Json.depth, Json.nat, NativeType.depth_toJson_le]

theorem Argument.depth_list_le {args : List Argument} {n : Nat}
    (h : ∀ a ∈ args, a.type.nesting ≤ n) :
    (Json.list (args.map (·.toJson))).depth ≤ n + 4 := by
  refine Json.depth_list_map_le fun a ha => ?_
  have := a.depth_toJson_le
  have := h a ha
  omega

theorem Function.depthMembers_members_le {f : Function} {n : Nat}
    (h : ∀ t ∈ f.returns :: f.args.map (·.type), t.nesting ≤ n) :
    Json.depthMembers f.members ≤ n + 4 := by
  rw [List.forall_mem_cons, List.forall_mem_map] at h
  have hargs := Argument.depth_list_le h.2
  have hreturns : f.returns.toJson.depth ≤ n + 4 := by
    have := f.returns.depth_toJson_le
    omega
  have hflags : f.flags.toJson.depth = 1 := rfl
  rw [Json.depthMembers_le_iff]
  simpa [members, Json.depth, hflags] using ⟨Nat.le_of_succ_le_succ hargs, hreturns⟩

theorem Callback.depthMembers_members_le {c : Callback} {n : Nat}
    (h : ∀ t ∈ c.returns :: c.args.map (·.type), t.nesting ≤ n) :
    Json.depthMembers c.members ≤ n + 4 := by
  rw [List.forall_mem_cons, List.forall_mem_map] at h
  have hargs := Argument.depth_list_le h.2
  have hreturns : c.returns.toJson.depth ≤ n + 4 := by
    have := c.returns.depth_toJson_le
    omega
  rw [Json.depthMembers_le_iff]
  simpa [members, Json.depth] using ⟨Nat.le_of_succ_le_succ hargs, hreturns⟩

theorem Container.depthMembers_members_le {c : Container} {n : Nat}
    (h : ∀ f ∈ c.methods, ∀ t ∈ f.returns :: f.args.map (·.type), t.nesting ≤ n) :
    Json.depthMembers c.members ≤ n + 6 := by
  have hmethods : (Json.list (c.methods.map fun f => .object f.members)).depth ≤ n + 6 := by
    refine Json.depth_list_map_le fun f hf => ?_
    exact Nat.succ_le_succ (Function.depthMembers_members_le (h f hf))
  refine depthMembers_writeFields_le ?_
  simpa [Json.depth] using hmethods

theorem Enumeration.depthMembers_members_le (e : Enumeration) :
    Json.depthMembers e.members ≤ 2 := by
  have hvalues : (Json.list (e.values.map (·.toJson))).depth ≤ 2 :=
    Json.depth_list_map_le fun m _ => Nat.le_refl 1
  refine depthMembers_writeFields_le ?_
  simpa [Json.depth] using hvalues

theorem Constant.depthMembers_members_le (c : Constant) : Json.depthMembers c.members ≤ 0 := by
  have hvalue : ∀ v : ConstantValue, v.toJson.depth = 0 := fun v => by cases v <;> rfl
  refine depthMembers_writeFields_le ?_
  simp [Json.depth, hvalue]

theorem Info.depth_toJson_le {i : Info} {n : Nat} (h : ∀ t ∈ i.types, t.nesting ≤ n) :
    i.toJson.depth ≤ n + 7 := by
  have hmembers : Json.depthMembers i.members ≤ n + 6 := by
    cases i with
    | function f =>
        have htypes : ∀ t ∈ f.returns :: f.args.map (·.type), t.nesting ≤ n := fun t ht =>
          h t (List.mem_flatMap.mpr ⟨f, List.mem_singleton_self f, ht⟩)
        exact Nat.le_trans (Function.depthMembers_members_le htypes) (by omega)
    | callback c => exact Nat.le_trans (Callback.depthMembers_members_le h) (by omega)
    | container k c =>
        refine Container.depthMembers_members_le fun f hf t ht => h t ?_
        exact List.mem_flatMap.mpr ⟨f, hf, ht⟩
    | enum e | flags e => exact Nat.le_trans e.depthMembers_members_le (by omega)
    | constant c => exact Nat.le_trans c.depthMembers_members_le (Nat.zero_le _)
  have hkind : (Json.text i.kind.name).depth = 0 := rfl
  rw [toJson, Json.depth, Json.depthMembers, hkind, Nat.zero_max]
  exact Nat.succ_le_succ hmembers

/-- The document stands nine levels around an innermost element type. -/
theorem Namespace.depth_toJson_le {ns : Namespace} {n : Nat}
    (h : ∀ i ∈ ns.infos, ∀ t ∈ i.types, t.nesting ≤ n) : ns.toJson.depth ≤ n + 9 := by
  have hinfos : (Json.list (ns.infos.map (·.toJson))).depth ≤ n + 8 :=
    Json.depth_list_map_le fun i hi => Info.depth_toJson_le (h i hi)
  rw [toJson, Json.depth]
  refine Nat.succ_le_succ (depthMembers_writeFields_le ?_)
  simpa [Json.depth] using hinfos

/-! ## The text -/

theorem Namespace.parse_render {ns : Namespace} (h : ns.Fits)
    (hfloat : ∀ i ∈ ns.infos, i.FloatFree) (hdepth : ns.toJson.depth < Json.nestingLimit) :
    parse ns.render = .ok ns := by
  exact parse_of_ofTagged? (ofTagged?_toJson h) hdepth (Json.scan_pretty (exact_toJson h hfloat))

/-- A valid namespace without a floating-point constant is read back from its own document. -/
theorem Namespace.ofText_render_of_validate {ns : Namespace} (h : ns.Fits)
    (hfloat : ∀ i ∈ ns.infos, i.FloatFree) (hdepth : ns.toJson.depth < Json.nestingLimit)
    (hvalid : ns.validate = .ok ns) : ofText ns.render = .ok ns := by
  rw [ofText, parse_render h hfloat hdepth]
  exact hvalid

/-- Every kind of symbol, with names that need escapes, nested element types, and integers at the
bounds of their range. -/
def sampleNamespace : Namespace :=
  let plain (tag : Tag) : NativeType := .plain { tag }
  let lists : NativeType :=
    .of { tag := .glist, isPointer := true } (.of { tag := .ghash } (plain .utf8))
  let counted : NativeType :=
    .of { tag := .array, isPointer := true, lengthArg := some 1, arrayKind := .array }
      (plain .uint8)
  let turn : Function :=
    { name := "turn \"\\\n\x01", symbol := "demo_turn_é→𝄞",
      flags := { isMethod := true, throws := true },
      args :=
        [{ name := "data", type := counted, direction := .inout, transfer := .everything,
            closure := some 1, destroy := some 0, scope := .notified },
          { name := "", type := lists, nullable := true, isOptional := true }],
      returns := .plain { tag := .interface, reference := some ⟨.object, "Thing", some "Other"⟩ },
      returnTransfer := .container, mayReturnNull := true }
  { name := "Demo\t", version := "1.0", cPrefix := some "/",
    infos :=
      [.function turn, .callback { name := "Func", args := turn.args, returns := lists },
        .container .object { name := "Thing", typeInit := some "t", methods := [turn] },
        .container .union { name := "Thing", parent := some "", deprecated := true },
        .enum { name := "Way", values := [⟨"UP", -0x8000000000000000⟩,
          ⟨"up", 0x7fffffffffffffff⟩] },
        .flags { name := "Bits", typeInit := some "b" }, .constant { name := "NONE" },
        .constant { name := "MAX", value := some (.int 0x7fffffffffffffff) },
        .constant { name := "YES", value := some (.bool true) },
        .constant { name := "TEXT", value := some (.text "\u007f") }] }

theorem Namespace.ofText_render_sample :
    ofText sampleNamespace.render = .ok sampleNamespace := by
  refine ofText_render_of_validate ?_ ?_ ?_ ?_
  · have hvalues : (Int64.minValue.toInt ≤ -0x8000000000000000 ∧
        -0x8000000000000000 ≤ Int64.maxValue.toInt) ∧
        Int64.minValue.toInt ≤ 0x7fffffffffffffff ∧ 0x7fffffffffffffff ≤ Int64.maxValue.toInt := by
      decide
    simpa [sampleNamespace, Fits, Info.Fits, Function.Fits, Callback.Fits, Argument.Fits,
      NativeType.Fits, Shape.Fits, EnumMember.Fits, ConstantValue.Fits] using hvalues
  · simp [sampleNamespace, Info.FloatFree]
  · decide
  · rfl

end Introspect
