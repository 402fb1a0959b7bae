import Introspect.Proofs.Members

/-!
# The format as a table

Every record of a document has its fields, and for each of them it is laid down whether it must be
there, what it is taken to be when it is left out, and what stands in it. A change that respects the
table does not change what is read: if all fields of two objects agree by it, and one is decoded,
the other is decoded as the same.
-/

namespace Introspect.Document

open Json (Fields column fields?)

/-- The records that a document consists of. -/
inductive Record
  | reference
  | type
  | argument
  | flags
  | function
  | callback
  | container
  | enumMember
  | enumeration
  | constant
  /-- A symbol, whose kind stands among its fields. -/
  | symbol (kind : SymbolKind)
  | document
deriving Repr, DecidableEq

/-- What stands in a field. -/
inductive Kind
  /-- A value that can be written in one way only. -/
  | value
  | record (r : Record)
  | symbol
  | list (item : Kind)
deriving Repr, DecidableEq

/-- What a field is taken to be when it is left out. -/
inductive Presence
  | required
  /-- When the field is left out it is taken to hold the value. -/
  | default (value : Json)
  /-- When the field is left out or `null` it is taken to be absent. -/
  | optional

/-- A field of a record. -/
structure Field where
  presence : Presence := .required
  kind : Kind := .value

/-- A field that is off when it is left out. -/
def Field.flag : Field := { presence := .default (.bool false) }

/-- A field that holds a name, and this one when it is left out. -/
def Field.named (default : String) : Field := { presence := .default (.text default) }

/-- A field that may be absent. -/
def Field.optional (kind : Kind := .value) : Field := { presence := .optional, kind }

/-- A field that holds a list, which is empty when it is left out. -/
def Field.items (kind : Kind) : Field := { presence := .default (.list []), kind := .list kind }

/-- The fields of a symbol of some kind, the kind aside. -/
def body : SymbolKind → Record
  | .function => .function
  | .callback => .callback
  | .struct | .union | .object | .interface => .container
  | .enum | .flags => .enumeration
  | .constant => .constant

namespace Record

/-- The fields of every record but the symbols. -/
def plainFields : Record → List (String × Field)
  | .reference => [("kind", {}), ("name", {}), ("namespace", .optional)]
  | .type =>
      [("tag", {}), ("is_pointer", .flag), ("elem_type", .optional (.record .type)),
        ("array_length", .optional), ("array_fixed_size", .optional), ("zero_terminated", .flag),
        ("array_kind", .named ArrayKind.c.name), ("interface", .optional (.record .reference))]
  | .argument =>
      [("name", {}), ("direction", .named Direction.in.name), ("type", { kind := .record .type }),
        ("transfer", .named Transfer.nothing.name), ("caller_allocates", .flag),
        ("nullable", .flag), ("optional", .flag), ("closure", .optional), ("destroy", .optional),
        ("scope", .named CallbackScope.invalid.name)]
  | .flags => [("is_method", .flag), ("is_constructor", .flag), ("throws", .flag)]
  | .function =>
      [("name", {}), ("symbol", {}),
        ("flags", { presence := .default (FunctionFlags.toJson {}), kind := .record .flags }),
        ("deprecated", .flag), ("args", .items (.record .argument)),
        ("return_type", { presence := .default NativeType.void.toJson, kind := .record .type }),
        ("return_transfer", .named Transfer.nothing.name), ("may_return_null", .flag),
        ("skip_return", .flag)]
  | .callback =>
      [("name", {}), ("args", .items (.record .argument)),
        ("return_type", { presence := .default NativeType.void.toJson, kind := .record .type }),
        ("return_transfer", .named Transfer.nothing.name), ("deprecated", .flag)]
  | .container =>
      [("name", {}), ("type_init", .optional), ("parent", .optional),
        ("methods", .items (.record .function)), ("deprecated", .flag)]
  | .enumMember => [("name", {}), ("value", {})]
  | .enumeration =>
      [("name", {}), ("type_init", .optional), ("values", .items (.record .enumMember)),
        ("deprecated", .flag)]
  | .constant => [("name", {}), ("value", .optional)]
  | .symbol _ => []
  | .document =>
      [("namespace", {}), ("version", {}), ("shared_library", .optional), ("c_prefix", .optional),
        ("infos", .items .symbol)]

/-- The fields of a record, by name. -/
def fields : Record → List (String × Field)
  | .symbol k => ("kind", {}) :: (body k).plainFields
  | r => r.plainFields

end Record

/-! ## Agreement -/

/-- Whatever is decoded from the first value is decoded from the second. -/
def Kept {α : Type} (decode : Json → Option α) (j j' : Json) : Prop :=
  ∀ x, decode j = some x → decode j' = some x

/-- Whatever record is read from the first value is read from the second. -/
def Record.Keeps : Record → Json → Json → Prop
  | .reference => Kept Reference.ofJson?
  | .type => Kept NativeType.ofJson?
  | .argument => Kept Argument.ofJson?
  | .flags => Kept FunctionFlags.ofJson?
  | .function => Kept Function.ofJson?
  | .callback => Kept fun j => (j.fields? Callback.fieldNames).bind Callback.ofFields?
  | .container => Kept fun j => (j.fields? Container.fieldNames).bind Container.ofFields?
  | .enumMember => Kept EnumMember.ofJson?
  | .enumeration =>
      Kept fun j => (j.fields? Enumeration.fieldNames).bind Enumeration.ofFields?
  | .constant => Kept fun j => (j.fields? Constant.fieldNames).bind Constant.ofFields?
  | .symbol k => fun j j' => ∀ ms, j = .object ms → ms.lookup "kind" = some (.text k.name) →
      Kept Info.ofTagged? j j'
  | .document => Kept Namespace.ofTagged?

/-- Whatever a field of this kind is read as from the first value, it is from the second. -/
def Kind.Keeps : Kind → Json → Json → Prop
  | .value, j, j' => j = j'
  | .record r, j, j' => r.Keeps j j'
  | .symbol, j, j' => Kept Info.ofTagged? j j'
  | .list k, j, j' => ∃ before x x' after, j = .list (before ++ x :: after) ∧
      j' = .list (before ++ x' :: after) ∧ k.Keeps x x'

/-- Two contents of a field that are read as the same. -/
inductive Field.Agree (f : Field) : Option Json → Option Json → Prop
  | same (o : Option Json) : f.Agree o o
  | leftOut {j : Json} (h : f.presence = .default j) : f.Agree (some j) none
  | null (h : f.presence = .optional) : f.Agree none (some .null)
  | inside {j j' : Json} (hj : j ≠ .null) (hj' : j' ≠ .null) (h : f.kind.Keeps j j') :
      f.Agree (some j) (some j')

/-- Two objects that are read as the same record. -/
def Record.Agree (r : Record) (ms ms' : List (String × Json)) : Prop :=
  ∀ name f, r.fields.lookup name = some f → ∀ o : Option Json, column name ms = o.toList →
    ∃ o' : Option Json, column name ms' = o'.toList ∧ f.Agree o o'

/-- The names of the fields of a record. -/
def Record.names (r : Record) : List String := r.fields.map Prod.fst

/-- The fields found in two objects agree. -/
def Record.FieldsAgree (r : Record) (fs fs' : Fields) : Prop :=
  ∀ name f, r.fields.lookup name = some f → f.Agree (fs.lookup name) (fs'.lookup name)

theorem Record.Agree.fields? {r : Record} {ms ms' : List (String × Json)} {fs : Fields}
    (h : r.Agree ms ms') (hfs : Json.fields? r.names (.object ms) = some fs) :
    ∃ fs', Json.fields? r.names (.object ms') = some fs' ∧ r.FieldsAgree fs fs' := by
  have hfound : ∀ name f, r.fields.lookup name = some f → ∃ o' : Option Json,
      column name ms' = o'.toList ∧ f.Agree (fs.lookup name) o' := fun name f hf =>
    h name f hf _ (Json.lookup_fields hfs (List.mem_map_of_mem (mem_of_lookup hf)))
  have honce : ∀ name ∈ r.names, (column name ms').length ≤ 1 := by
    intro name hname
    obtain ⟨f, hf⟩ := exists_lookup hname
    obtain ⟨o', hcolumn, -⟩ := hfound name f hf
    rw [hcolumn]
    exact Option.length_toList_le
  obtain ⟨fs', hfs'⟩ : ∃ fs', Json.fields? r.names (.object ms') = some fs' :=
    ⟨_, Json.fields?_eq_some_iff.mpr ⟨honce, rfl⟩⟩
  refine ⟨fs', hfs', fun name f hf => ?_⟩
  obtain ⟨o', hcolumn, hagree⟩ := hfound name f hf
  have hlookup := Json.lookup_fields hfs' (List.mem_map_of_mem (mem_of_lookup hf))
  have hfound' : o' = fs'.lookup name := by
    simpa [hcolumn] using congrArg List.head? hlookup
  rwa [← hfound']

/-! ## Fields -/

theorem Kind.keeps_value {α : Type} {decode : Json → Option α} {j j' : Json}
    (h : Kind.value.Keeps j j') : Kept decode j j' := by
  rw [show j = j' from h]
  exact fun _ hx => hx

theorem kept_readAll {α : Type} {decode : Json → Option α} {k : Kind} {j j' : Json}
    (hk : ∀ {x x'}, k.Keeps x x' → Kept decode x x') (h : (Kind.list k).Keeps j j') :
    Kept (readAll decode) j j' := by
  obtain ⟨before, x, x', after, rfl, rfl, hx⟩ := h
  intro xs hxs
  show (before ++ x' :: after).mapM decode = some xs
  change (before ++ x :: after).mapM decode = some xs at hxs
  rw [List.mapM_append, List.mapM_cons] at hxs ⊢
  simp only [Option.bind_eq_bind, Option.bind_eq_some_iff] at hxs ⊢
  obtain ⟨ys, hys, zs, ⟨y, hy, hzs⟩, heq⟩ := hxs
  exact ⟨ys, hys, zs, ⟨y, hk hx y hy, hzs⟩, heq⟩

namespace Record.FieldsAgree

variable {α : Type} {r : Record} {fs fs' : Fields} {name : String} {k : Kind}
  {decode : Json → Option α}

theorem required {x : α} (h : r.FieldsAgree fs fs')
    (hx : Fields.required fs name decode = some x)
    (hf : r.fields.lookup name = some { kind := k })
    (hk : ∀ {j j'}, k.Keeps j j' → Kept decode j j') :
    Fields.required fs' name decode = some x := by
  have hagree := h name _ hf
  unfold Fields.required at hx ⊢
  generalize fs.lookup name = o at hx hagree
  generalize fs'.lookup name = o' at hagree ⊢
  cases hagree with
  | same o => exact hx
  | leftOut hd => cases hd
  | null hd => cases hd
  | inside _ _ hj => exact hk hj x hx

theorem default {value x : α} {d : Json} (h : r.FieldsAgree fs fs')
    (hx : Fields.default fs name value decode = some x)
    (hf : r.fields.lookup name = some { presence := .default d, kind := k })
    (hk : ∀ {j j'}, k.Keeps j j' → Kept decode j j') (hd : decode d = some value) :
    Fields.default fs' name value decode = some x := by
  have hagree := h name _ hf
  unfold Fields.default at hx ⊢
  generalize fs.lookup name = o at hx hagree
  generalize fs'.lookup name = o' at hagree ⊢
  cases hagree with
  | same o => exact hx
  | leftOut h =>
      -- What stood there was the default.
      cases h
      dsimp only at hx
      rw [← hx, hd]
  | null h => cases h
  | inside _ _ hj => exact hk hj x hx

theorem optional {x : Option α} (h : r.FieldsAgree fs fs')
    (hx : Fields.optional fs name decode = some x)
    (hf : r.fields.lookup name = some (.optional k))
    (hk : ∀ {j j'}, k.Keeps j j' → Kept decode j j') :
    Fields.optional fs' name decode = some x := by
  have hagree := h name _ hf
  unfold Fields.optional at hx ⊢
  generalize fs.lookup name = o at hx hagree
  generalize fs'.lookup name = o' at hagree ⊢
  cases hagree with
  | same o => exact hx
  | leftOut h => cases h
  | null h => exact hx
  | @inside j j' hj hj' hkeeps =>
      cases j with
      | null => exact absurd rfl hj
      | bool b | number n | text s | list xs | object ms =>
          obtain ⟨y, hy, rfl⟩ := Option.map_eq_some_iff.mp hx
          cases j' with
          | null => exact absurd rfl hj'
          | bool b | number n | text s | list xs | object ms =>
              dsimp only
              rw [hk hkeeps y hy, Option.map_some]

theorem value {x : α} (h : r.FieldsAgree fs fs') (hx : Fields.required fs name decode = some x)
    (hf : r.fields.lookup name = some {}) : Fields.required fs' name decode = some x :=
  h.required hx hf Kind.keeps_value

theorem flag {b : Bool} (h : r.FieldsAgree fs fs')
    (hx : Fields.default fs name false Json.bool? = some b)
    (hf : r.fields.lookup name = some .flag) : Fields.default fs' name false Json.bool? = some b :=
  h.default hx hf Kind.keeps_value rfl

theorem named {value x : α} {text : String} (h : r.FieldsAgree fs fs')
    (hx : Fields.default fs name value decode = some x)
    (hf : r.fields.lookup name = some (.named text)) (hd : decode (.text text) = some value) :
    Fields.default fs' name value decode = some x :=
  h.default hx hf Kind.keeps_value hd

theorem optionalValue {x : Option α} (h : r.FieldsAgree fs fs')
    (hx : Fields.optional fs name decode = some x) (hf : r.fields.lookup name = some .optional) :
    Fields.optional fs' name decode = some x :=
  h.optional hx hf Kind.keeps_value

theorem items {xs : List α} (h : r.FieldsAgree fs fs')
    (hx : Fields.default fs name [] (readAll decode) = some xs)
    (hf : r.fields.lookup name = some (.items k))
    (hk : ∀ {j j'}, k.Keeps j j' → Kept decode j j') :
    Fields.default fs' name [] (readAll decode) = some xs :=
  h.default hx hf (kept_readAll hk) rfl

end Record.FieldsAgree

/-! ## Records -/

/-- A decoder of fields that respects agreement is one of objects. -/
theorem Record.Agree.kept {α : Type} {r : Record} {decode : Fields → Option α}
    {ms ms' : List (String × Json)} (h : r.Agree ms ms')
    (hdecode : ∀ {fs fs' x}, r.FieldsAgree fs fs' → decode fs = some x → decode fs' = some x) :
    Kept (fun j => (j.fields? r.names).bind decode) (.object ms) (.object ms') := by
  intro x hx
  obtain ⟨fs, hfs, hx⟩ := Option.bind_eq_some_iff.mp hx
  obtain ⟨fs', hfs', hagree⟩ := h.fields? hfs
  exact Option.bind_eq_some_iff.mpr ⟨fs', hfs', hdecode hagree hx⟩

section
variable {ms ms' : List (String × Json)}

theorem keeps_reference (h : Record.reference.Agree ms ms') :
    Record.reference.Keeps (.object ms) (.object ms') := by
  refine h.kept fun hagree hx => ?_
  simp only [Option.bind_eq_bind, Option.bind_eq_some_iff] at hx ⊢
  obtain ⟨kind, hkind, name, hname, home, hhome, hx⟩ := hx
  exact ⟨kind, hagree.value hkind rfl, name, hagree.value hname rfl,
    home, hagree.optionalValue hhome rfl, hx⟩

theorem keeps_type (h : Record.type.Agree ms ms') :
    Record.type.Keeps (.object ms) (.object ms') := by
  have hkept : Kept (fun j => (j.fields? NativeType.fieldNames).bind
      (NativeType.ofFieldsWith? NativeType.ofJson?)) (.object ms) (.object ms') := by
    refine h.kept fun hagree hx => ?_
    simp only [NativeType.ofFieldsWith?, NativeType.shapeOf?, Option.bind_eq_bind,
      Option.bind_eq_some_iff] at hx ⊢
    obtain ⟨s, ⟨tag, htag, isPointer, hpointer, lengthArg, hlength, fixedSize, hsize,
      zeroTerminated, hzero, arrayKind, harray, reference, hreference, hs⟩, elem, helem, hx⟩ := hx
    exact ⟨s, ⟨tag, hagree.value htag rfl, isPointer, hagree.flag hpointer rfl,
      lengthArg, hagree.optionalValue hlength rfl, fixedSize, hagree.optionalValue hsize rfl,
      zeroTerminated, hagree.flag hzero rfl, arrayKind, hagree.named harray rfl rfl,
      reference, hagree.optional hreference rfl id, hs⟩, elem, hagree.optional helem rfl id, hx⟩
  intro t ht
  rw [NativeType.ofJson?_eq] at ht ⊢
  exact hkept t ht

theorem keeps_argument (h : Record.argument.Agree ms ms') :
    Record.argument.Keeps (.object ms) (.object ms') := by
  refine h.kept fun hagree hx => ?_
  simp only [Option.bind_eq_bind, Option.bind_eq_some_iff] at hx ⊢
  obtain ⟨name, hname, direction, hdirection, type, htype, transfer, htransfer, callerAllocates,
    hcaller, nullable, hnullable, isOptional, hoptional, closure, hclosure, destroy, hdestroy,
    scope, hscope, hx⟩ := hx
  exact ⟨name, hagree.value hname rfl, direction, hagree.named hdirection rfl rfl,
    type, hagree.required htype rfl id, transfer, hagree.named htransfer rfl rfl,
    callerAllocates, hagree.flag hcaller rfl, nullable, hagree.flag hnullable rfl,
    isOptional, hagree.flag hoptional rfl, closure, hagree.optionalValue hclosure rfl,
    destroy, hagree.optionalValue hdestroy rfl, scope, hagree.named hscope rfl rfl, hx⟩

theorem keeps_flags (h : Record.flags.Agree ms ms') :
    Record.flags.Keeps (.object ms) (.object ms') := by
  refine h.kept fun hagree hx => ?_
  simp only [Option.bind_eq_bind, Option.bind_eq_some_iff] at hx ⊢
  obtain ⟨isMethod, hmethod, isConstructor, hconstructor, throws, hthrows, hx⟩ := hx
  exact ⟨isMethod, hagree.flag hmethod rfl, isConstructor, hagree.flag hconstructor rfl,
    throws, hagree.flag hthrows rfl, hx⟩

theorem ofJson?_void : NativeType.ofJson? NativeType.void.toJson = some NativeType.void :=
  NativeType.ofJson?_toJson
    (by simp [NativeType.void, NativeType.scalar, NativeType.Fits, Shape.Fits])

theorem keeps_function (h : Record.function.Agree ms ms') :
    Record.function.Keeps (.object ms) (.object ms') := by
  refine h.kept fun hagree hx => ?_
  simp only [Function.ofFields?, Option.bind_eq_bind, Option.bind_eq_some_iff] at hx ⊢
  obtain ⟨name, hname, symbol, hsymbol, flags, hflags, deprecated, hdeprecated, args, hargs,
    returns, hreturns, returnTransfer, htransfer, mayReturnNull, hnull, skipReturn, hskip, hx⟩ := hx
  exact ⟨name, hagree.value hname rfl, symbol, hagree.value hsymbol rfl,
    flags, hagree.default hflags rfl id (FunctionFlags.ofJson?_toJson {}),
    deprecated, hagree.flag hdeprecated rfl, args, hagree.items hargs rfl id,
    returns, hagree.default hreturns rfl id ofJson?_void,
    returnTransfer, hagree.named htransfer rfl rfl, mayReturnNull, hagree.flag hnull rfl,
    skipReturn, hagree.flag hskip rfl, hx⟩

theorem keeps_callback (h : Record.callback.Agree ms ms') :
    Record.callback.Keeps (.object ms) (.object ms') := by
  refine h.kept fun hagree hx => ?_
  simp only [Callback.ofFields?, Option.bind_eq_bind, Option.bind_eq_some_iff] at hx ⊢
  obtain ⟨name, hname, args, hargs, returns, hreturns, returnTransfer, htransfer, deprecated,
    hdeprecated, hx⟩ := hx
  exact ⟨name, hagree.value hname rfl, args, hagree.items hargs rfl id,
    returns, hagree.default hreturns rfl id ofJson?_void,
    returnTransfer, hagree.named htransfer rfl rfl, deprecated, hagree.flag hdeprecated rfl, hx⟩

theorem keeps_container (h : Record.container.Agree ms ms') :
    Record.container.Keeps (.object ms) (.object ms') := by
  refine h.kept fun hagree hx => ?_
  simp only [Container.ofFields?, Option.bind_eq_bind, Option.bind_eq_some_iff] at hx ⊢
  obtain ⟨name, hname, typeInit, hinit, parent, hparent, methods, hmethods, deprecated, hdeprecated,
    hx⟩ := hx
  exact ⟨name, hagree.value hname rfl, typeInit, hagree.optionalValue hinit rfl,
    parent, hagree.optionalValue hparent rfl, methods, hagree.items hmethods rfl id,
    deprecated, hagree.flag hdeprecated rfl, hx⟩

theorem keeps_enumMember (h : Record.enumMember.Agree ms ms') :
    Record.enumMember.Keeps (.object ms) (.object ms') := by
  refine h.kept fun hagree hx => ?_
  simp only [Option.bind_eq_bind, Option.bind_eq_some_iff] at hx ⊢
  obtain ⟨name, hname, value, hvalue, hx⟩ := hx
  exact ⟨name, hagree.value hname rfl, value, hagree.value hvalue rfl, hx⟩

theorem keeps_enumeration (h : Record.enumeration.Agree ms ms') :
    Record.enumeration.Keeps (.object ms) (.object ms') := by
  refine h.kept fun hagree hx => ?_
  simp only [Enumeration.ofFields?, Option.bind_eq_bind, Option.bind_eq_some_iff] at hx ⊢
  obtain ⟨name, hname, typeInit, hinit, values, hvalues, deprecated, hdeprecated, hx⟩ := hx
  exact ⟨name, hagree.value hname rfl, typeInit, hagree.optionalValue hinit rfl,
    values, hagree.items hvalues rfl id, deprecated, hagree.flag hdeprecated rfl, hx⟩

theorem keeps_constant (h : Record.constant.Agree ms ms') :
    Record.constant.Keeps (.object ms) (.object ms') := by
  refine h.kept fun hagree hx => ?_
  simp only [Constant.ofFields?, Option.bind_eq_bind, Option.bind_eq_some_iff] at hx ⊢
  obtain ⟨name, hname, value, hvalue, hx⟩ := hx
  exact ⟨name, hagree.value hname rfl, value, hagree.optionalValue hvalue rfl, hx⟩

theorem keeps_document (h : Record.document.Agree ms ms') :
    Record.document.Keeps (.object ms) (.object ms') := by
  refine h.kept fun hagree hx => ?_
  simp only [Namespace.ofFieldsWith?, Option.bind_eq_bind, Option.bind_eq_some_iff] at hx ⊢
  obtain ⟨name, hname, version, hversion, library, hlibrary, cPrefix, hprefix, infos, hinfos,
    hx⟩ := hx
  exact ⟨name, hagree.value hname rfl, version, hagree.value hversion rfl,
    library, hagree.optionalValue hlibrary rfl, cPrefix, hagree.optionalValue hprefix rfl,
    infos, hagree.items hinfos rfl id, hx⟩

/-! ## Symbols -/

theorem Kept.map {α β : Type} {decode : Json → Option α} {j j' : Json} (h : Kept decode j j')
    (g : α → β) : Kept (fun j => (decode j).map g) j j' := by
  intro y hy
  obtain ⟨x, hx, rfl⟩ := Option.map_eq_some_iff.mp hy
  exact Option.map_eq_some_iff.mpr ⟨x, h x hx, rfl⟩

theorem Kept.wrapped {α β : Type} {names : List String} {decode : Fields → Option α} {j j' : Json}
    {g : α → β} (h : Kept (fun j => (j.fields? names).bind decode) j j') :
    Kept (fun j => do return g (← decode (← j.fields? names))) j j' := by
  have heq : (fun j : Json => ((j.fields? names).bind decode).map g) =
      fun j => do return g (← decode (← j.fields? names)) := by
    funext j
    cases j.fields? names with
    | none => rfl
    | some fs => cases h : decode fs <;> simp [h]
  rw [← heq]
  exact h.map g

/-- The fields of a symbol decide what it is, once its kind is known. -/
theorem kept_ofKind? {k : SymbolKind} {j j' : Json} (h : (body k).Keeps j j') :
    Kept (Info.ofKind? k.name) j j' := by
  cases k with
  | function => exact Kept.map h Info.function
  | callback => exact Kept.wrapped h
  | struct | union | object | interface => exact Kept.wrapped h
  | enum | flags => exact Kept.wrapped h
  | constant => exact Kept.wrapped h

theorem keeps_body {k : SymbolKind} (h : (body k).Agree ms ms') :
    (body k).Keeps (.object ms) (.object ms') := by
  cases k with
  | function => exact keeps_function h
  | callback => exact keeps_callback h
  | struct | union | object | interface => exact keeps_container h
  | enum | flags => exact keeps_enumeration h
  | constant => exact keeps_constant h

theorem fields_body (k : SymbolKind) : (body k).fields = (body k).plainFields := by
  cases k <;> rfl

theorem lookup_kind_body (k : SymbolKind) : (body k).fields.lookup "kind" = none := by
  cases k <;> decide

/-- What stands beside the kind is the record of the symbol. -/
theorem agree_body {k : SymbolKind} (h : (Record.symbol k).Agree ms ms') :
    (body k).Agree (ms.filter (·.1 ≠ "kind")) (ms'.filter (·.1 ≠ "kind")) := by
  intro name f hf o ho
  have hname : name ≠ "kind" := by
    rintro rfl
    rw [lookup_kind_body] at hf
    cases hf
  have hcolumn : ∀ ms : List (String × Json),
      column name (ms.filter (·.1 ≠ "kind")) = column name ms := fun ms =>
    Json.column_filter fun m hm => decide_eq_true (hm ▸ hname)
  have hsymbol : (Record.symbol k).fields.lookup name = some f := by
    rw [Record.fields, lookup_cons_eq_ite, if_neg hname, ← fields_body, hf]
  rw [hcolumn] at ho ⊢
  exact h name f hsymbol o ho

theorem ofJson?_of_kind {k : SymbolKind} (hk : ms.lookup "kind" = some (.text k.name)) :
    Info.ofJson? (.object ms) = Info.ofKind? k.name (.object (ms.filter (·.1 ≠ "kind"))) := by
  rw [Info.ofJson?, hk]
  rfl

theorem keeps_symbol {k : SymbolKind} (h : (Record.symbol k).Agree ms ms') :
    (Record.symbol k).Keeps (.object ms) (.object ms') := by
  rintro _ ⟨⟩ hk i hi
  obtain ⟨hone, hi⟩ := Option.ite_none_right_eq_some.mp hi
  -- The kind stands in the second object as it does in the first.
  have hcolumn : column "kind" ms = (ms.lookup "kind").toList :=
    Json.column_eq_toList_lookup (Nat.le_of_eq hone)
  obtain ⟨o', ho', hagree⟩ := h "kind" {} (by rw [Record.fields, lookup_cons_eq_ite, if_pos rfl])
    _ hcolumn
  have hsame : o' = some (.text k.name) := by
    rw [hk] at hagree
    cases hagree with
    | same => rfl
    | leftOut h => cases h
    | inside _ _ h => rw [← show Json.text k.name = _ from h]
  have hk' : ms'.lookup "kind" = some (.text k.name) := by
    rw [Json.lookup_eq_head?, ho', hsame]
    rfl
  rw [ofJson?_of_kind hk] at hi
  refine Option.ite_none_right_eq_some.mpr ⟨by rw [ho', hsame]; rfl, ?_⟩
  rw [ofJson?_of_kind hk']
  exact kept_ofKind? (keeps_body (agree_body h)) i hi

/-- A change by which all fields agree does not change what is read. -/
theorem Record.Agree.keeps {r : Record} (h : r.Agree ms ms') :
    r.Keeps (.object ms) (.object ms') := by
  cases r with
  | reference => exact keeps_reference h
  | type => exact keeps_type h
  | argument => exact keeps_argument h
  | flags => exact keeps_flags h
  | function => exact keeps_function h
  | callback => exact keeps_callback h
  | container => exact keeps_container h
  | enumMember => exact keeps_enumMember h
  | enumeration => exact keeps_enumeration h
  | constant => exact keeps_constant h
  | symbol k => exact keeps_symbol h
  | document => exact keeps_document h

end

end Introspect.Document
