import Introspect.Proofs.Listings

/-!
# Where names in a file come from

Every text of a file is put together from texts that any listing of dependencies gives and from the
names of foreign types. This goes through all that the lines are made from: host types, the values
of arguments and results, calls, and the closure types of callbacks. What is decided on the way is
decided the same under every listing.
-/

namespace Introspect.Binding

open Listing (Follows Steady Each Perhaps)
open Naming (Locals)
open Source (Step)

/-! ## Host types -/

/-- A host type that follows the listing; whatever is listed, it is looked at with the same
result. -/
structure HostListed (s : Scope) (host : Listing → String) : Prop where
  follows : Follows s host
  zero : Steady fun l => zeroValue (host l)
  todo : Steady fun l => decide (host l = todoType)
  optional : Steady fun l => "Option".toList.isPrefixOf (host l).toList

theorem HostListed.fixed {s : Scope} {host : Listing → String} (h : Steady host) :
    HostListed s host :=
  ⟨.fixed h, h.map _, h.map fun host => decide (host = todoType),
    h.map fun host => "Option".toList.isPrefixOf host.toList⟩

theorem isPrefixOf_eq_false {c : Char} {cs ds : List Char} (h : ds.head? ≠ some c) :
    (c :: cs).isPrefixOf ds = false := by
  rw [Bool.eq_false_iff, ne_eq, List.isPrefixOf_iff_prefix]
  rintro ⟨rest, rfl⟩
  exact h rfl

theorem HostListed.option {s : Scope} {host : Listing → String} (h : Follows s host) :
    HostListed s fun l => "Option<" ++ host l ++ ">" := by
  have hlist : ∀ l, ("Option<" ++ host l ++ ">").toList =
      "Option".toList ++ ('<' :: ((host l).toList ++ ['>'])) := fun l => by
    simp [String.toList_append]
  have hhead : ∀ l, ("Option<" ++ host l ++ ">").toList.head? = some 'O' := fun l => by
    rw [hlist]
    rfl
  have hzero : ∀ l, zeroValue ("Option<" ++ host l ++ ">") = "Default::default()" := fun l =>
    if_neg (Bool.eq_false_iff.mp (isPrefixOf_eq_false (by rw [hhead]; decide)))
  have htodo : ∀ l, decide ("Option<" ++ host l ++ ">" = todoType) = false := fun l => by
    refine decide_eq_false fun heq => ?_
    have hfirst := hhead l
    rw [heq] at hfirst
    exact absurd hfirst (by decide)
  have hoption : ∀ l, "Option".toList.isPrefixOf ("Option<" ++ host l ++ ">").toList = true :=
    fun l => List.isPrefixOf_iff_prefix.mpr ⟨_, (hlist l).symm⟩
  exact ⟨((Follows.text _).append h).append (.text _),
    fun l l' => (hzero l).trans (hzero l').symm, fun l l' => (htodo l).trans (htodo l').symm,
    fun l l' => (hoption l).trans (hoption l').symm⟩

/-- Every type mentioned by name in a type is mentioned in the namespace. -/
def Mentions (s : Scope) (t : NativeType) : Prop :=
  ∀ r, t.reference = some r → r ∈ s.space.references

section
variable {s : Scope} (hhomes : ∀ n ∈ s.space.homes, Versioned n)
include hhomes

theorem versioned_depFor {r : Reference} {home : String} (hr : r ∈ s.space.references)
    (hhome : s.foreignHome? r = some home) (l : Listing) :
    Versioned (((s.listing l).config.depFor? home).getD home) := by
  have hmem := Scope.dependency_mem (s := s.listing l) hr hhome
  exact (List.mem_append.mp hmem).elim (hhomes _) (l.versioned _)

theorem hostListed_typeName {r : Reference} (hr : r ∈ s.space.references) :
    HostListed s fun l => (s.listing l).typeName r := by
  cases hhome : s.foreignHome? r with
  | none =>
      refine .fixed fun l l' => ?_
      have hlocal : ∀ l, (s.listing l).typeName r = s.localName r := fun l => by
        rw [Scope.typeName, show (s.listing l).foreignHome? r = none from hhome]
        rfl
      rw [hlocal, hlocal]
  | some home =>
      have hhead : ∀ l c, ((s.listing l).typeName r).toList.head? = some c → c ≠ '*' ∧ c ≠ 'O' :=
        fun l c => Scope.head?_typeName (s := s.listing l) hhome
          (versioned_depFor hhomes hr hhome l)
      have hzero : ∀ l, zeroValue ((s.listing l).typeName r) = "Default::default()" := fun l =>
        if_neg (Bool.eq_false_iff.mp (isPrefixOf_eq_false fun h => (hhead l _ h).1 rfl))
      have htodo : ∀ l, decide ((s.listing l).typeName r = todoType) = false := fun l =>
        decide_eq_false (Scope.typeName_ne_todoType (s := s.listing l) hhome)
      have hoption : ∀ l, "Option".toList.isPrefixOf ((s.listing l).typeName r).toList = false :=
        fun l => isPrefixOf_eq_false fun h => (hhead l _ h).2 rfl
      exact ⟨.name hr hhome, fun l l' => (hzero l).trans (hzero l').symm,
        fun l l' => (htodo l).trans (htodo l').symm,
        fun l l' => (hoption l).trans (hoption l').symm⟩

end

/-! ## Values -/

section
variable {s : Scope} {host : Listing → String}

/-- Of a value on its way in, only the host type follows the listing. -/
structure Input.Listed (s : Scope) (v : Listing → Input) : Prop where
  host : HostListed s fun l => (v l).host
  before : Steady fun l => (v l).before
  slot : Steady fun l => (v l).slot
  after : Steady fun l => (v l).after

namespace Input.Listed

theorem fixed {v : Listing → Input} (h : Steady v) : Input.Listed s v :=
  ⟨.fixed (h.map _), h.map _, h.map _, h.map _⟩

theorem simple (h : HostListed s host) (cell : Cell) (value : String) :
    Input.Listed s fun l => Input.simple (host l) cell value :=
  ⟨h, fun _ _ => rfl, fun _ _ => rfl, fun _ _ => rfl⟩

theorem byPointer (h : HostListed s host) (var : String) (nullable : Bool) :
    Input.Listed s fun l => Input.byPointer (host l) var nullable := by
  cases nullable with
  | false => exact simple h _ _
  | true => exact simple (.option h.follows) _ _

theorem scalar (h : HostListed s host) (t : NativeType) (cell : Cell) (value : String) :
    Input.Listed s fun l => Input.scalar t (host l) cell value := by
  unfold Input.scalar
  split
  · exact fixed fun _ _ => rfl
  · exact simple h _ _

end Input.Listed

/-- Of a value on its way out, the host type and the expression follow the listing. -/
structure Output.Listed (s : Scope) (o : Listing → Output) : Prop where
  host : HostListed s fun l => (o l).host
  expression : Follows s fun l => (o l).value.expression
  needsContext : Steady fun l => (o l).value.needsContext

namespace Output.Listed

theorem fixed {o : Listing → Output} (h : Steady o) : Output.Listed s o :=
  ⟨.fixed (h.map _), .fixed (h.map fun o => o.value.expression),
    h.map fun o => o.value.needsContext⟩

theorem byPointer (h : HostListed s host) (slot : String) :
    Output.Listed s fun l => Output.byPointer (host l) slot :=
  ⟨h, (h.follows.append (.text _)).append (.text _), fun _ _ => rfl⟩

theorem object (h : HostListed s host) (slot : String) :
    Output.Listed s fun l => ⟨"Option<gi::DynObject>", .object (host l) slot⟩ := by
  refine ⟨.fixed fun _ _ => rfl, ?_, fun _ _ => rfl⟩
  exact (Follows.text _).append (((Follows.text _).append h.follows).append (.text _)).braced

theorem bits (h : HostListed s host) (t : NativeType) (slot : String) (cell : Cell) :
    Output.Listed s fun l => Output.bits t (host l) slot cell := by
  unfold Output.bits
  split
  · exact fixed fun _ _ => rfl
  · refine ⟨h, ?_, fun _ _ => rfl⟩
    exact ((((h.follows.append (.text _)).append (.text _)).append (.text _)).append
      (.text _)).append (.text _)

end Output.Listed

/-- Of a result, only the host type follows the listing. -/
structure Result.Listed (s : Scope) (r : Listing → Result) : Prop where
  cell : Steady fun l => (r l).cell
  host : Follows s fun l => (r l).host
  convert : Steady fun l => (r l).convert

theorem Result.Listed.named (h : Follows s host) (cell : Option Cell) (convert : Conversion) :
    Result.Listed s fun l => ⟨cell, host l, convert⟩ :=
  ⟨fun _ _ => rfl, h, fun _ _ => rfl⟩

end

section
variable {s : Scope} (hhomes : ∀ n ∈ s.space.homes, Versioned n)
include hhomes

theorem Input.listed_named {t : NativeType} {r : Reference} (hr : r ∈ s.space.references)
    (var : String) (nullable : Bool) :
    Input.Listed s fun l => Input.named (s.listing l) t r var nullable := by
  have hname := hostListed_typeName hhomes hr
  have hkind : ∀ l, (s.listing l).kind r = s.kind r := fun _ => rfl
  simp only [Input.named, hkind]
  cases s.kind r with
  | struct | union | object | interface =>
      dsimp only
      split
      · exact .byPointer hname var nullable
      · exact .fixed fun _ _ => rfl
  | enum | flags => exact .scalar hname t _ _
  | callback | unresolved => exact .fixed fun _ _ => rfl

theorem Input.listed_of {t : NativeType} (ht : Mentions s t) (var : String) (nullable : Bool)
    (transfer : Transfer) (locals : Locals) :
    Input.Listed s (fun l => (Input.of (s.listing l) t var nullable transfer locals).1) ∧
      Steady fun l => (Input.of (s.listing l) t var nullable transfer locals).2 := by
  have harray : ∀ l, ArrayHost.of (s.listing l) t = ArrayHost.of s t := fun _ => rfl
  simp only [Input.of, harray]
  cases t.tag with
  | interface =>
      cases hreference : t.reference with
      | none => exact ⟨.fixed fun _ _ => rfl, fun _ _ => rfl⟩
      | some r => exact ⟨Input.listed_named hhomes (ht r hreference) var nullable, fun _ _ => rfl⟩
  | _ => exact ⟨.fixed fun _ _ => rfl, fun _ _ => rfl⟩

theorem Output.listed_named {t : NativeType} {r : Reference} (hr : r ∈ s.space.references)
    (slot : String) (declaredType : Bool) :
    Output.Listed s fun l => Output.named (s.listing l) t r slot declaredType := by
  have hname := hostListed_typeName hhomes hr
  have hkind : ∀ l, (s.listing l).kind r = s.kind r := fun _ => rfl
  have hfixed : ∀ {o : Output}, Output.Listed s fun _ => o := .fixed fun _ _ => rfl
  simp only [Output.named, hkind]
  cases s.kind r with
  | struct | union | interface =>
      dsimp only
      split
      · exact .byPointer hname slot
      · exact hfixed
  | object =>
      dsimp only
      split
      · exact hfixed
      split
      · exact .byPointer hname slot
      · exact .object hname slot
  | enum | flags => exact .bits hname t slot _
  | callback | unresolved => exact hfixed

theorem Output.listed_of {t : NativeType} (ht : Mentions s t) (slot : String) (length : ArrayLength)
    (o : OutputOptions) (locals : Locals) :
    Output.Listed s (fun l => (Output.of (s.listing l) t slot length o locals).1) ∧
      Steady fun l => (Output.of (s.listing l) t slot length o locals).2 := by
  have harray : ∀ l, Output.array (s.listing l) t slot length locals =
      Output.array s t slot length locals := fun _ => rfl
  simp only [Output.of, harray]
  cases t.tag with
  | interface =>
      cases hreference : t.reference with
      | none => exact ⟨.fixed fun _ _ => rfl, fun _ _ => rfl⟩
      | some r => exact ⟨Output.listed_named hhomes (ht r hreference) slot _, fun _ _ => rfl⟩
  | _ => exact ⟨.fixed fun _ _ => rfl, fun _ _ => rfl⟩

theorem Result.listed_byTag {t : NativeType} (ht : Mentions s t) :
    Perhaps (Result.Listed s) fun l => Result.byTag? (s.listing l) t := by
  have hfixed : ∀ x : Option Result, Perhaps (Result.Listed s) fun _ => x := by
    intro x
    cases x with
    | none => exact .inl rfl
    | some r => exact .inr ⟨_, .named (.text _) _ _, rfl⟩
  unfold Result.byTag?
  cases t.tag with
  | interface =>
      cases hreference : t.reference with
      | none => exact hfixed _
      | some r =>
          have hname := (hostListed_typeName hhomes (ht r hreference)).follows
          have hkind : ∀ l, (s.listing l).kind r = s.kind r := fun _ => rfl
          have hnamed : ∀ c k, Perhaps (Result.Listed s) fun l =>
              some ⟨some c, (s.listing l).typeName r, k⟩ := fun c k =>
            .inr ⟨_, .named hname _ _, rfl⟩
          simp only [Option.bind_some, hkind]
          cases s.kind r with
          | struct | union | object | interface =>
              dsimp only
              split
              · exact hnamed _ _
              · exact hfixed _
          | enum | flags => exact hnamed _ _
          | callback | unresolved => exact hfixed _
  | _ => exact hfixed _

theorem Result.listed_of {t : NativeType} (ht : Mentions s t) :
    Perhaps (Result.Listed s) fun l => Result.of? (s.listing l) t := by
  unfold Result.of?
  rcases Result.listed_byTag hhomes ht with hnone | ⟨r, hr, hsome⟩
  · exact .inl (by simp only [congrFun hnone, Option.filter_none])
  · simp only [congrFun hsome, Option.filter_some]
    have hcell := hr.cell.eq
    simp only [congrFun hcell]
    split
    · exact .inr ⟨r, hr, rfl⟩
    · exact .inl rfl

end

/-! ## Calls -/

theorem Statement.follows_writeBack {s : Scope} {o : Listing → Output} (h : Output.Listed s o)
    (var : String) : Follows s fun l => (Statement.writeBack var (o l).value).text :=
  (((Follows.text _).append (.text _)).append h.expression).append (.text _)

/-- A value that is returned under a fixed name. -/
def ResultListed (s : Scope) (r : Listing → String × Output) : Prop :=
  Steady (fun l => (r l).1) ∧ Output.Listed s fun l => (r l).2

/-- A part whose lines follow the listing. -/
structure Part.Listed (s : Scope) (p : Listing → Part) : Prop where
  slot : Steady fun l => (p l).slot
  param : Perhaps (fun x => Steady (fun l => (x l).var) ∧ Follows s fun l => (x l).host)
    fun l => (p l).param
  before : Each (Follows s) fun l => (p l).before.map (·.text)
  writeBack : Each (Follows s) fun l => (p l).writeBack.map (·.text)
  after : Each (Follows s) fun l => (p l).after.map (·.text)
  result : Perhaps (ResultListed s) fun l => (p l).result
  needsContext : Steady fun l => (p l).needsContext

section
variable {s : Scope} {p : Listing → Part}

theorem each_texts {xs : Listing → List Statement} (h : Steady xs) :
    Each (Follows s) fun l => (xs l).map (·.text) := by
  rw [h.eq]
  exact .fixed fun x _ => .text x

theorem Part.Listed.fixed (h : Steady p) : Part.Listed s p := by
  rw [h.eq]
  refine ⟨fun _ _ => rfl, ?_, each_texts fun _ _ => rfl, each_texts fun _ _ => rfl,
    each_texts fun _ _ => rfl, ?_, fun _ _ => rfl⟩
  · cases (p default).param with
    | none => exact .inl rfl
    | some x => exact .inr ⟨_, ⟨fun _ _ => rfl, .text _⟩, rfl⟩
  · cases (p default).result with
    | none => exact .inl rfl
    | some x => exact .inr ⟨_, ⟨fun _ _ => rfl, .fixed fun _ _ => rfl⟩, rfl⟩

theorem Part.Listed.input {v : Listing → Input} (h : Input.Listed s v) (var : String) :
    Part.Listed s fun l =>
      { slot := .value (v l).slot, param := some ⟨var, (v l).host⟩, before := (v l).before
        after := (v l).after } where
  slot := h.slot.map _
  param := .inr ⟨_, ⟨fun _ _ => rfl, h.host.follows⟩, rfl⟩
  before := each_texts h.before
  writeBack := .nil
  after := each_texts h.after
  result := .inl rfl
  needsContext := h.before.map fun before => before.any Part.registers || false

theorem Part.Listed.output {o : Listing → Output} (h : Output.Listed s o) (var : String) :
    Part.Listed s fun l => { slot := .empty, result := some (var, o l) } where
  slot _ _ := rfl
  param := .inl rfl
  before := .nil
  writeBack := .nil
  after := .nil
  result := .inr ⟨_, ⟨fun _ _ => rfl, h⟩, rfl⟩
  needsContext := h.needsContext

theorem Part.Listed.inout {v : Listing → Input} {o : Listing → Output} (hv : Input.Listed s v)
    (ho : Output.Listed s o) (var place : String) : Part.Listed s fun l =>
      { slot := .empty
        param := some ⟨var, "&mut " ++ (o l).host⟩
        before := (v l).before ++ [.fill place (v l).slot]
        writeBack := [.writeBack var (o l).value]
        after := (v l).after } where
  slot _ _ := rfl
  param := .inr ⟨_, ⟨fun _ _ => rfl, (Follows.text _).append ho.host.follows⟩, rfl⟩
  before := each_texts fun l l' => congrArg₂ (fun before slot => before ++ [.fill place slot])
    (hv.before l l') (hv.slot l l')
  writeBack := Each.nil.cons (Statement.follows_writeBack ho var)
  after := each_texts hv.after
  result := .inl rfl
  needsContext l l' := congrArg₂
    (fun before slot => (before ++ [Statement.fill place slot]).any Part.registers || false)
    (hv.before l l') (hv.slot l l')

end

theorem Part.steady_exchangeable {s : Scope} {v : Listing → Input} {o : Listing → Output}
    (hv : Input.Listed s v) (ho : Output.Listed s o) :
    Steady fun l => Part.exchangeable (v l) (o l) := by
  intro l l'
  have htodo : decide ((v l).host = todoType) = decide ((v l').host = todoType) := hv.host.todo l l'
  have hdone : (o l).isTodo = (o l').isTodo := ho.host.todo l l'
  have hoptional := hv.host.optional l l'
  simp only [Part.exchangeable, decide_not, htodo, hdone, hoptional]

/-- The same analysis, with these dependencies listed. -/
def Analysis.listing (an : Analysis) (l : Listing) : Analysis :=
  an.under fun config => { config with deps := l.deps }

/-- The same callbacks, with these dependencies listed. -/
def Env.listing (e : Env) (l : Listing) : Env :=
  e.under fun config => { config with deps := l.deps }

section
variable {an : Analysis} (hhomes : ∀ n ∈ an.env.scope.space.homes, Versioned n)
include hhomes

theorem Part.listed_inout {a : Argument} (ha : Mentions an.env.scope a.type) (i : Nat)
    (var : String) (locals : Locals) :
    Part.Listed an.env.scope (fun l => (Part.inout (an.listing l) i a var locals).1) ∧
      Steady fun l => (Part.inout (an.listing l) i a var locals).2 := by
  unfold Part.inout
  cases Part.behind? var a.type.tag with
  | none => exact ⟨.fixed fun _ _ => rfl, fun _ _ => rfl⟩
  | some value =>
      obtain ⟨hv, hlocals⟩ := Input.listed_of hhomes ha value false a.transfer locals
      obtain ⟨locals', hinput⟩ := hlocals.exists_eq
      obtain ⟨ho, hlocals⟩ := Output.listed_of hhomes ha (an.outPlace ((an.outSlot? i).getD 0))
        .unknown ⟨a.transfer, false, true⟩ locals'
      obtain ⟨exchangeable, hexchangeable⟩ := (Part.steady_exchangeable hv ho).exists_eq
      have hscope : ∀ l, (an.listing l).env.scope = an.env.scope.listing l := fun _ => rfl
      have hplace : ∀ l k, (an.listing l).outPlace k = an.outPlace k := fun _ _ => rfl
      have hslot : ∀ l, (an.listing l).outSlot? i = an.outSlot? i := fun _ => rfl
      simp only [Part.exchange, hscope, hplace, hslot, hinput, hexchangeable]
      split
      · exact ⟨.inout hv ho var _, hlocals⟩
      · exact ⟨.fixed fun _ _ => rfl, hlocals⟩

theorem Part.listed_of {a : Argument} (ha : Mentions an.env.scope a.type) (i : Nat)
    (locals : Locals) :
    Part.Listed an.env.scope (fun l => (Part.of (an.listing l) i a locals).1) ∧
      Steady fun l => (Part.of (an.listing l) i a locals).2 := by
  have hrole : ∀ l, (an.listing l).role i a = an.role i a := fun _ => rfl
  have hfixed : ∀ {p : Part}, Part.Listed an.env.scope fun _ => p := .fixed fun _ _ => rfl
  unfold Part.of
  simp only [hrole]
  cases an.role i a with
  | input =>
      obtain ⟨hv, hlocals⟩ := Input.listed_of hhomes ha ((locals.param? i).getD a.name) a.nullable
        a.transfer locals
      exact ⟨.input hv _, hlocals⟩
  | output =>
      obtain ⟨ho, hlocals⟩ := Output.listed_of hhomes ha (an.outPlace ((an.outSlot? i).getD 0))
        (an.arrayLength locals a.type) ⟨a.transfer, a.nullable, false⟩ locals
      exact ⟨.output ho _, hlocals⟩
  | inout => exact Part.listed_inout hhomes ha i _ locals
  | hidden h => cases h <;> exact ⟨hfixed, fun _ _ => rfl⟩
  | callback =>
      have hcallback : ∀ l var, Part.callback (an.listing l) i a var = Part.callback an i a var :=
        fun _ _ => rfl
      simp only [hcallback]
      exact ⟨hfixed, fun _ _ => rfl⟩
  | self | userData handle | release => exact ⟨hfixed, fun _ _ => rfl⟩

end

/-! ## Lines -/

/-- Steps as many in every listing, whose texts follow it. -/
def StepsFollow (s : Scope) (steps : Listing → List Step) : Prop :=
  Each (Follows s) fun l => (steps l).map (·.text)

namespace StepsFollow

variable {s : Scope} {xs ys : Listing → List Step} {t : Listing → String}

theorem fixed (h : Steady xs) : StepsFollow s xs := by
  rw [StepsFollow, h.eq]
  exact .fixed fun x _ => .text x

theorem nil : StepsFollow s fun _ => [] := Each.nil

theorem append (hx : StepsFollow s xs) (hy : StepsFollow s ys) :
    StepsFollow s fun l => xs l ++ ys l := by
  simp only [StepsFollow, List.map_append]
  exact Each.append hx hy

theorem line (h : Follows s t) : StepsFollow s fun l => [.line (t l)] := Each.nil.cons h

theorem consLine (h : Follows s t) (hx : StepsFollow s xs) :
    StepsFollow s fun l => .line (t l) :: xs l := Each.cons h hx

theorem opening (h : Follows s t) : StepsFollow s fun l => [.opening (t l)] := Each.nil.cons h

/-- Items follow the listing one by one. -/
theorem flatten_filterMap {α : Type} {items : List α} {steps? : Listing → α → Option (List Step)}
    (h : ∀ item ∈ items, Perhaps (StepsFollow s) fun l => steps? l item) :
    StepsFollow s fun l => (items.filterMap (steps? l)).flatten := by
  induction items with
  | nil => exact nil
  | cons item rest ih =>
      rw [List.forall_mem_cons] at h
      have hrest := ih h.2
      rcases h.1 with hnone | ⟨steps, hsteps, hsome⟩
      · simp only [List.filterMap_cons, congrFun hnone]
        exact hrest
      · simp only [List.filterMap_cons, congrFun hsome, List.flatten_cons]
        exact hsteps.append hrest

theorem lines {α : Type} {zs : Listing → List α} {g : α → String}
    (h : Each (Follows s) fun l => (zs l).map g) :
    StepsFollow s fun l => (zs l).map fun z => .line (g z) := by
  simp only [StepsFollow, List.map_map]
  exact h

end StepsFollow

/-! ## Calls -/

/-- A call with these parts and this result in each listing. -/
def Call.across (an : Analysis) (parts : Listing → List Part)
    (result : Listing → Option (String × Output)) (l : Listing) : Call :=
  ⟨an.listing l, parts l, result l⟩

namespace Call

section
variable {s : Scope} (an : Analysis) {parts : Listing → List Part}
variable {result : Listing → Option (String × Output)}
variable (hparts : Each (Part.Listed s) parts) (hresult : Perhaps (ResultListed s) result)

include hparts hresult in
theorem each_results : Each (ResultListed s) fun l => (across an parts result l).results :=
  hresult.toList.append (hparts.filterMap fun _ hp => hp.result)

include hparts in
theorem each_statements {g : Part → List Statement}
    (hg : ∀ p, Part.Listed s p → Each (Follows s) fun l => (g (p l)).map (·.text)) :
    Each (Follows s) fun l => ((parts l).flatMap g).map (·.text) := by
  simp only [List.map_flatMap]
  exact hparts.flatMap hg

include hparts hresult in
theorem steady_needsContext : Steady fun l => (across an parts result l).needsContext := by
  have hany : Steady fun l => (parts l).any Part.needsContext := by
    have hall := (hparts.steady fun _ hp => hp.needsContext).map fun needs => needs.any id
    simpa only [List.any_map, Function.id_comp] using hall
  rcases hresult with rfl | ⟨r, hr, rfl⟩
  · exact hany.map fun x => x || false
  · exact fun l l' => congrArg₂ or (hany l l') (hr.2.needsContext l l')

theorem follows_oneOrTuple {ts : Listing → List String} (h : Each (Follows s) ts) :
    Follows s fun l => oneOrTuple (ts l) := by
  obtain ⟨fs, hfs, rfl⟩ := h
  match fs, hfs with
  | [], _ => exact .fixed fun _ _ => rfl
  | [f], hfs => exact hfs f List.mem_cons_self
  | f :: g :: fs, hfs => exact .tuple ⟨f :: g :: fs, hfs, rfl⟩

include hparts hresult in
theorem follows_hostResult : Follows s fun l => (across an parts result l).hostResult :=
  follows_oneOrTuple ((each_results an hparts hresult).map fun _ hr => hr.2.host.follows)

include hparts hresult in
theorem follows_signature : Follows s fun l => (across an parts result l).signature := by
  have hhost := follows_hostResult an hparts hresult
  have hreturns : Follows s fun l => if an.function.flags.throws then
      " -> Result<" ++ (across an parts result l).hostResult ++ ", gi::GiError>"
      else if (across an parts result l).results.isEmpty then ""
      else " -> " ++ (across an parts result l).hostResult := by
    obtain ⟨isEmpty, hempty⟩ := (each_results an hparts hresult).steady_isEmpty.exists_eq
    simp only [hempty]
    split
    · exact ((Follows.text _).append hhost).append (.text _)
    split
    · exact .text _
    · exact (Follows.text _).append hhost
  have hparams : Each (Follows s) fun l => ((across an parts result l).params.map fun p =>
      p.var ++ ": " ++ p.host) := by
    refine Each.map (hparts.filterMap fun _ hp => hp.param) fun x hx => ?_
    exact (((Follows.fixed hx.1).append (.text _)).append hx.2)
  have hself : ∀ receiver : List String, Each (Follows s) fun _ => receiver :=
    fun _ => .fixed fun t _ => .text t
  have hreceiver : ∀ l, (across an parts result l).analysis.receiver = an.receiver := fun _ => rfl
  simp only [signature, hreceiver]
  have hname := (Follows.text (s := s) "pub fn ").append
    (.text (hostName an.function an.site.container.isSome))
  exact ((hname.append (.tuple ((hself _).append hparams))).append hreturns).append (.text _)

include hparts hresult in
theorem steady_earlyReturn : Steady fun l => (across an parts result l).earlyReturn := by
  obtain ⟨rs, hrs, heq⟩ := each_results an hparts hresult
  have hzero : ∀ l l', (rs.map (· l)).map (fun r => zeroValue r.2.host) =
      (rs.map (· l')).map fun r => zeroValue r.2.host := by
    intro l l'
    simp only [List.map_map]
    exact List.map_congr_left fun r hr => (hrs r hr).2.host.zero l l'
  intro l l'
  simp only [earlyReturn, congrFun heq]
  cases rs with
  | nil => rfl
  | cons r rs => exact congrArg (fun ts => "return " ++ oneOrTuple ts ++ ";") (hzero l l')

include hparts hresult in
theorem stepsFollow_lookupSteps :
    StepsFollow s fun l => (across an parts result l).lookupSteps := by
  refine .fixed fun l l' => ?_
  have hneeds := steady_needsContext an hparts hresult l l'
  have hreturn := steady_earlyReturn an hparts hresult l l'
  unfold lookupSteps
  simp only [hneeds, hreturn]
  rfl

include hparts in
theorem stepsFollow_callSteps : StepsFollow s fun l => (across an parts result l).callSteps := by
  have hbefore : StepsFollow s fun l =>
      ((parts l).flatMap (·.before)).map fun st => Step.line st.text :=
    .lines (each_statements hparts fun _ hp => hp.before)
  have hslots : Steady fun l => (parts l).map (·.slot) := hparts.steady fun _ hp => hp.slot
  have hempty := hparts.steady_isEmpty
  obtain ⟨slots, hslots⟩ := hslots.exists_eq
  obtain ⟨isEmpty, hempty⟩ := hempty.exists_eq
  unfold callSteps
  simp only [Call.slots, Call.before, across, hslots, hempty]
  exact ((((StepsFollow.fixed fun _ _ => rfl).append hbefore).append (.fixed fun _ _ => rfl)).append
    (.fixed fun _ _ => rfl)).append (.fixed fun _ _ => rfl)

include hparts hresult in
theorem stepsFollow_resultSteps :
    StepsFollow s fun l => (across an parts result l).resultSteps := by
  obtain ⟨rs, hrs, heq⟩ := each_results an hparts hresult
  have hdone : ∀ {t : Listing → String}, Follows s t →
      StepsFollow s fun l =>
        [.line (if an.function.flags.throws then "Ok(" ++ t l ++ ")" else t l)] := by
    intro t ht
    split
    · exact .line (((Follows.text _).append ht).append (.text _))
    · exact .line ht
  have hthrows : ∀ l, (across an parts result l).throws = an.function.flags.throws := fun _ => rfl
  simp only [resultSteps, congrFun heq, hthrows]
  match rs, hrs with
  | [], _ => exact .fixed fun _ _ => rfl
  | [r], hrs => exact hdone (hrs r List.mem_cons_self).2.expression
  | r :: r' :: rs, hrs =>
      have hlets : StepsFollow s fun l => ((r :: r' :: rs).map (· l)).map fun r =>
          Step.line ("let " ++ r.1 ++ " = " ++ r.2.value.expression ++ ";") := by
        refine .lines (Each.map ⟨_, hrs, rfl⟩ fun x hx => ?_)
        have hlet : Follows s fun l => "let " ++ (x l).1 ++ " = " :=
          ((Follows.text _).append (.fixed hx.1)).append (.text _)
        exact (hlet.append hx.2.expression).append (.text _)
      have hnames : Follows s fun l => tuple (((r :: r' :: rs).map (· l)).map (·.1)) :=
        .tuple (Each.map ⟨_, hrs, rfl⟩ fun x hx => .fixed hx.1)
      exact hlets.append (hdone hnames)

include hparts hresult in
/-- All lines of a call follow the listing. -/
theorem stepsFollow_steps : StepsFollow s fun l => (across an parts result l).steps := by
  have hafter : StepsFollow s fun l => (across an parts result l).after.map fun st =>
      Step.line st.text := by
    refine .lines ?_
    simp only [Call.after, List.map_append]
    exact (each_statements hparts fun _ hp => hp.writeBack).append
      (each_statements hparts fun _ hp => hp.after)
  have hremarks : StepsFollow s fun l => (across an parts result l).remarks := .fixed fun _ _ => rfl
  have herror : StepsFollow s fun l => (across an parts result l).errorSteps :=
    .fixed fun _ _ => rfl
  have hend : StepsFollow s fun _ => [Step.closing "\x7d"] := .fixed fun _ _ => rfl
  have hcall : StepsFollow s fun l => (across an parts result l).callSteps :=
    stepsFollow_callSteps an hparts
  have hinner := ((((((hremarks.append (.opening (follows_signature an hparts hresult))).append
    (stepsFollow_lookupSteps an hparts hresult)).append hcall).append hafter).append herror).append
    (stepsFollow_resultSteps an hparts hresult)).append hend
  have hcontainer : ∀ l, (across an parts result l).analysis.site.container = an.site.container :=
    fun _ => rfl
  simp only [steps, hcontainer]
  cases an.site.container with
  | none => exact hinner
  | some owner =>
      exact ((StepsFollow.fixed fun _ _ => rfl).append hinner).append (.fixed fun _ _ => rfl)

end

end Call

theorem Part.listed_allFrom {an : Analysis} (hhomes : ∀ n ∈ an.env.scope.space.homes, Versioned n)
    {args : List Argument} (hargs : ∀ a ∈ args, Mentions an.env.scope a.type) : ∀ i locals,
      Each (Part.Listed an.env.scope) (fun l => (Part.allFrom (an.listing l) i locals args).1) ∧
        Steady fun l => (Part.allFrom (an.listing l) i locals args).2 := by
  induction args with
  | nil => exact fun _ _ => ⟨.nil, fun _ _ => rfl⟩
  | cons a rest ih =>
      intro i locals
      rw [List.forall_mem_cons] at hargs
      obtain ⟨hpart, hlocals⟩ := Part.listed_of hhomes hargs.1 i locals
      obtain ⟨locals', hlocals⟩ := hlocals.exists_eq
      obtain ⟨hrest, hlast⟩ := ih hargs.2 (i + 1) locals'
      simp only [Part.allFrom, hlocals]
      exact ⟨hrest.cons hpart, hlast⟩

theorem Call.listed_resultOf {an : Analysis}
    (hhomes : ∀ n ∈ an.env.scope.space.homes, Versioned n)
    (hreturns : Mentions an.env.scope an.function.returns) (locals : Locals) :
    Perhaps (ResultListed an.env.scope) fun l => Call.resultOf (an.listing l) locals := by
  have hhas : ∀ l, (an.listing l).hasResult = an.hasResult := fun _ => rfl
  have hconstructed : ∀ l, (an.listing l).constructed? = an.constructed? := fun _ => rfl
  unfold Call.resultOf
  simp only [hhas, hconstructed]
  split
  · exact .inl rfl
  cases an.constructed? with
  | some c => exact .inr ⟨_, ⟨fun _ _ => rfl, .fixed fun _ _ => rfl⟩, rfl⟩
  | none =>
      obtain ⟨ho, hlocals⟩ := Output.listed_of hhomes hreturns an.resultVar
        (an.arrayLength locals an.function.returns)
        ⟨an.function.returnTransfer, an.function.mayReturnNull, false⟩ locals
      exact .inr ⟨_, ⟨hlocals.map fun locals => (locals.alloc "result").1, ho⟩, rfl⟩

section
variable {e : Env} (hhomes : ∀ n ∈ e.scope.space.homes, Versioned n)
include hhomes

/-- All lines of a function follow the listing. -/
theorem Call.stepsFollow_of {f : Function} (hargs : ∀ a ∈ f.args, Mentions e.scope a.type)
    (hreturns : Mentions e.scope f.returns) (site : Site) :
    StepsFollow e.scope fun l => (Call.of (e.listing l) f site).steps := by
  obtain ⟨an, locals, han⟩ : ∃ an locals, Analysis.of e f site = (an, locals) := ⟨_, _, rfl⟩
  have henv : an.env = e := by rw [← Analysis.of_env e f site, han]
  have hfunction : an.function = f := by rw [← Analysis.of_function e f site, han]
  have hunder : ∀ l, Analysis.of (e.listing l) f site = (an.listing l, locals) := fun l => by
    rw [Env.listing, Analysis.of_under, han]
    rfl
  subst henv hfunction
  obtain ⟨hparts, hlocals⟩ := Part.listed_allFrom hhomes hargs 0 locals
  obtain ⟨locals', hlocals⟩ := hlocals.exists_eq
  have hfixed : ∀ {ps : List Part}, Each (Part.Listed an.env.scope) fun _ => ps :=
    .fixed fun _ _ => .fixed fun _ _ => rfl
  have hall : Each (Part.Listed an.env.scope) fun l =>
      Part.receiver an ++ (Part.allFrom (an.listing l) 0 locals an.function.args).1 ++
        Part.error an := (hfixed.append hparts).append hfixed
  have hresult := Call.listed_resultOf hhomes hreturns locals'
  simp only [Call.of, hunder, hlocals]
  exact Call.stepsFollow_steps an hall hresult

end

/-! ## Callbacks -/

section
variable {s : Scope} (hhomes : ∀ n ∈ s.space.homes, Versioned n)

/-- A host value, with the argument it is for. -/
def HostParamListed (s : Scope) (x : Listing → Argument × Output) : Prop :=
  Steady (fun l => (x l).1) ∧ Output.Listed s fun l => (x l).2

include hhomes in
theorem Trampoline.listed_of {cb : Introspect.Callback} (hreturns : Mentions s cb.returns) :
    (∃ reason, ∀ l, Trampoline.of (s.listing l) cb = .error reason) ∨
      ∃ params locals r, Result.Listed s r ∧
        ∀ l, Trampoline.of (s.listing l) cb = .ok (⟨params, r l⟩, locals) := by
  have hparams : ∀ l, paramsFrom (s.listing l) 0 {} cb.args = paramsFrom s 0 {} cb.args :=
    fun l => paramsFrom_under _
  cases hps : paramsFrom s 0 {} cb.args with
  | error reason =>
      refine .inl ⟨reason, fun l => ?_⟩
      simp only [Trampoline.of, hparams, hps]
      rfl
  | ok ps =>
      rcases Result.listed_of hhomes hreturns with hnone | ⟨r, hr, hsome⟩
      · refine .inl ⟨"unmapped return type", fun l => ?_⟩
        simp only [Trampoline.of, hparams, hps, congrFun hnone]
        rfl
      · refine .inr ⟨ps.1, ps.2, r, hr, fun l => ?_⟩
        simp only [Trampoline.of, hparams, hps, congrFun hsome]
        rfl

include hhomes in
theorem Trampoline.listed_hostParams (skip : Nat) {ps : List (Argument × TrampolineParam)}
    (hps : ∀ p ∈ ps, Mentions s p.1.type) : ∀ i locals,
      Each (HostParamListed s) (fun l => (hostParams (s.listing l) skip i locals ps).1) ∧
        Steady fun l => (hostParams (s.listing l) skip i locals ps).2 := by
  induction ps with
  | nil => exact fun _ _ => ⟨.nil, fun _ _ => rfl⟩
  | cons p rest ih =>
      intro i locals
      rw [List.forall_mem_cons] at hps
      unfold hostParams
      split
      · exact ih hps.2 (i + 1) locals
      · obtain ⟨ho, hlocals⟩ := Output.listed_of hhomes hps.1 p.2.slot (.of p.1.type none)
          ⟨p.1.transfer, p.1.nullable, true⟩ locals
        obtain ⟨locals', hlocals⟩ := hlocals.exists_eq
        obtain ⟨hrest, hlast⟩ := ih hps.2 (i + 1) locals'
        simp only [hostParam, hlocals]
        exact ⟨hrest.cons ⟨fun _ _ => rfl, ho⟩, hlast⟩

/-- Which argument has no host type does not depend on the listing. -/
theorem steady_find?_isTodo {os : Listing → List (Argument × Output)}
    (h : Each (HostParamListed s) os) :
    Steady fun l => ((os l).find? fun o => o.2.isTodo).map Prod.fst := by
  obtain ⟨fs, hfs, rfl⟩ := h
  intro l l'
  induction fs with
  | nil => rfl
  | cons f fs ih =>
      rw [List.forall_mem_cons] at hfs
      have htodo : (f l).2.isTodo = (f l').2.isTodo := hfs.1.2.host.todo l l'
      simp only [List.map_cons, List.find?_cons, htodo]
      split
      · exact congrArg some (hfs.1.1 l l')
      · exact ih hfs.2

include hhomes in
theorem CallbackKind.steady_classify (cb : Introspect.Callback)
    (hargs : ∀ a ∈ cb.args, Mentions s a.type) (hreturns : Mentions s cb.returns) :
    Steady fun l => classify (s.listing l) cb := by
  rcases Trampoline.listed_of hhomes hreturns with ⟨reason, herror⟩ | ⟨params, locals, r, -, hok⟩
  · intro l l'
    simp only [classify, herror]
  · have hmanual : ∀ l, (s.listing l).config.isManualCallback cb.name =
        s.config.isManualCallback cb.name := fun _ => rfl
    intro l l'
    simp only [classify, hok, hmanual]
    split
    · rfl
    split
    · rfl
    next u _ =>
      have hzip : ∀ p ∈ cb.args.zip params, Mentions s p.1.type := fun p hp =>
        hargs _ (List.of_mem_zip hp).1
      have hfind := steady_find?_isTodo (Trampoline.listed_hostParams hhomes u hzip 0 locals).1 l l'
      split
      · next a o hl =>
          have hl' := hfind.symm.trans (congrArg (Option.map Prod.fst) hl)
          split
          · next a' o' heq =>
              cases (congrArg (Option.map Prod.fst) heq).symm.trans hl'
              rfl
          · next heq => cases (congrArg (Option.map Prod.fst) heq).symm.trans hl'
      · next hl =>
          have hl' := hfind.symm.trans (congrArg (Option.map Prod.fst) hl)
          split
          · next a' o' heq => cases (congrArg (Option.map Prod.fst) heq).symm.trans hl'
          · rfl

theorem Conversion.follows_apply {t : Listing → String} (h : Follows s t) (k : Conversion) :
    Follows s fun l => k.apply (t l) := by
  cases k with
  | same => exact h
  | bits | pointer => exact h.append (.text _)
  | boolToInt | charToInt | text => exact ((Follows.text _).append h).append (.text _)

theorem Result.follows_ending {r : Listing → Result} (hr : Result.Listed s r)
    {call : Listing → String} (h : Follows s call) : Follows s fun l => (r l).ending (call l) := by
  obtain ⟨cell, hcell⟩ := hr.cell.exists_eq
  obtain ⟨convert, hconvert⟩ := hr.convert.exists_eq
  simp only [Result.ending, Result.isVoid, hcell, hconvert]
  split
  · exact h.append (.text _)
  · exact Conversion.follows_apply h convert

theorem Result.steady_giveUp {r : Listing → Result} (hr : Result.Listed s r) :
    Steady fun l => (r l).giveUp := by
  obtain ⟨cell, hcell⟩ := hr.cell.exists_eq
  intro l l'
  simp only [Result.giveUp, Result.isVoid, Result.fallback, hcell]

theorem Trampoline.steady_signature {r : Listing → Result} (hr : Result.Listed s r)
    (params : List TrampolineParam) : Steady fun l => Trampoline.signature ⟨params, r l⟩ := by
  obtain ⟨cell, hcell⟩ := hr.cell.exists_eq
  intro l l'
  simp only [Trampoline.signature, Result.isVoid, Result.native, hcell]

/-- Of the statements of a trampoline only a call has values in it that follow the listing. -/
theorem TrampolineStatement.stepsFollow_steps {r : Listing → Result} (hr : Result.Listed s r)
    (st : TrampolineStatement) (hst : ∀ function args, st ≠ .call function args) :
    StepsFollow s fun l => st.steps (r l) := by
  refine .fixed fun l l' => ?_
  cases st with
  | call function args => exact absurd rfl (hst function args)
  | takeFunction var closure type =>
      simp only [TrampolineStatement.steps, Result.steady_giveUp hr l l']
  | takeHandle | lookUp | releaseAsync | release => rfl

/-- The lines of a closure type, whose parameters and result follow the listing, do so as well. -/
theorem ClosureBinding.stepsFollow_steps {r : Listing → Result} {hosts : Listing → List Output}
    (hr : Result.Listed s r) (hhosts : Each (Output.Listed s) hosts) (cb : Introspect.Callback)
    (params : List TrampolineParam) (userData : TrampolineParam)
    (handle closure function : String) :
    StepsFollow s fun l => ClosureBinding.steps
      ⟨cb, ⟨params, r l⟩, userData, hosts l, handle, closure, function⟩ := by
  obtain ⟨cell, hcell⟩ := hr.cell.exists_eq
  obtain ⟨signature, hsignature⟩ := (Trampoline.steady_signature hr params).exists_eq
  obtain ⟨giveUp, hgiveUp⟩ := (Result.steady_giveUp hr).exists_eq
  have hreturns : Follows s fun l => if cell.isNone then "" else " -> " ++ (r l).host := by
    split
    · exact .text _
    · exact (Follows.text _).append hr.host
  have htype : Follows s fun l => "pub type " ++ cb.name ++ " = Box<dyn Fn" ++
      tuple ((hosts l).map (·.host)) ++ (if cell.isNone then "" else " -> " ++ (r l).host) ++
        " + Send + Sync>;" :=
    (((Follows.text ("pub type " ++ cb.name ++ " = Box<dyn Fn")).append
      (.tuple (hhosts.map fun _ ho => ho.host.follows))).append hreturns).append (.text _)
  have hcall : Follows s fun l => (r l).ending
      (function ++ tuple (((hosts l).map (·.value)).map (·.expression))) := by
    refine Result.follows_ending hr ((Follows.text _).append (.tuple ?_))
    simp only [List.map_map]
    exact hhosts.map fun _ ho => ho.expression
  have hstatement := TrampolineStatement.stepsFollow_steps hr
  have hcallSteps : StepsFollow s fun l =>
      TrampolineStatement.steps (r l) (.call function ((hosts l).map (·.value))) := .line hcall
  have hbody := (hstatement (.takeHandle handle userData.var) nofun).append <|
    (hstatement (.lookUp closure handle) nofun).append <|
    (hstatement (.releaseAsync closure handle) nofun).append <|
    (hstatement (.takeFunction function closure cb.name) nofun).append <|
    hcallSteps.append .nil
  have hfixed : ∀ {steps : List Step}, StepsFollow s fun _ => steps := .fixed fun _ _ => rfl
  simp only [ClosureBinding.steps, ClosureBinding.returnType, Result.isVoid, hcell,
    hsignature, hgiveUp, ClosureBinding.body, List.flatMap_cons, List.flatMap_nil]
  exact ((StepsFollow.append (.fixed fun _ _ => rfl) (.consLine htype hfixed)).append hbody).append
    hfixed

include hhomes in
theorem Callback.stepsFollow_steps? {cb : Introspect.Callback}
    (hargs : ∀ a ∈ cb.args, Mentions s a.type) (hreturns : Mentions s cb.returns)
    (kind : CallbackKind) :
    Perhaps (StepsFollow s) fun l => Callback.steps? (s.listing l) cb kind := by
  have hempty : Perhaps (StepsFollow s) fun _ => some [] := .inr ⟨_, .nil, rfl⟩
  rcases Trampoline.listed_of hhomes hreturns with ⟨reason, herror⟩ | ⟨params, locals, r, hr, hok⟩
  · cases kind with
    | closure u =>
        simp only [steps?, ClosureBinding.of, herror]
        exact hempty
    | manual =>
        simp only [steps?, herror]
        exact hempty
    | unsupported reason => exact .inr ⟨_, .fixed fun _ _ => rfl, rfl⟩
  · cases kind with
    | closure u =>
        have hzip : ∀ p ∈ cb.args.zip params, Mentions s p.1.type := fun p hp =>
          hargs _ (List.of_mem_zip hp).1
        obtain ⟨hhosts, hlocals⟩ := Trampoline.listed_hostParams hhomes u hzip 0 locals
        obtain ⟨locals', hlocals⟩ := hlocals.exists_eq
        simp only [steps?, ClosureBinding.of, hok, hlocals]
        cases params[u]? with
        | none => exact .inl rfl
        | some p =>
            refine .inr ⟨_, ClosureBinding.stepsFollow_steps hr (hhosts.map fun _ h => h.2)
              cb params p _ _ _, rfl⟩
    | manual =>
        obtain ⟨signature, hsignature⟩ := (Trampoline.steady_signature hr params).exists_eq
        simp only [steps?, hok, manualSteps, hsignature]
        exact .inr ⟨_, .fixed fun _ _ => rfl, rfl⟩
    | unsupported reason => exact .inr ⟨_, .fixed fun _ _ => rfl, rfl⟩

end

/-! ## Files -/

section
variable {e : Env} (l : Listing)

theorem methodItems_listing (kind : ContainerKind) (c : Introspect.Container) (index : Nat)
    {methods : List Function} : ∀ i n,
      methodItems (e.listing l).scope kind c index i n methods =
        methodItems e.scope kind c index i n methods := by
  induction methods with
  | nil => exact fun _ _ => rfl
  | cons f rest ih =>
      intro i n
      simp only [methodItems, ih]
      rfl

theorem infoItems_listing (index : Nat) (info : Info) (n : Counters) :
    infoItems (e.listing l) index info n = infoItems e index info n := by
  cases info with
  | container kind c =>
      simp only [infoItems, methodItems_listing]
      rfl
  | function | callback | enum | flags | constant => rfl

/-- What is written for the symbols does not depend on the listing. -/
theorem itemsFrom_listing {infos : List Info} : ∀ index n,
    itemsFrom (e.listing l) index n infos = itemsFrom e index n infos := by
  induction infos with
  | nil => exact fun _ _ => rfl
  | cons info rest ih =>
      intro index n
      simp only [itemsFrom, infoItems_listing, ih]

end

section
variable {s : Scope} (hhomes : ∀ n ∈ s.space.homes, Versioned n)

theorem mentions_of_mem {info : Info} (hinfo : info ∈ s.space.infos) {t : NativeType}
    (ht : t ∈ info.types) : Mentions s t := by
  intro r hr
  refine List.mem_flatMap.mpr ⟨info, hinfo, List.mem_flatMap.mpr ⟨t, ht, ?_⟩⟩
  cases t with
  | plain sh => exact Option.mem_toList.mpr hr
  | of sh elem => exact List.mem_append_left _ (Option.mem_toList.mpr hr)

include hhomes in
/-- How callbacks are bound does not depend on the listing. -/
theorem exists_env : ∃ e : Env, e.scope = s ∧ ∀ l, Env.of (s.listing l) = e.listing l := by
  refine ⟨⟨s, (Env.of (s.listing default)).callbacks⟩, rfl, fun l => ?_⟩
  refine congrArg (Env.mk (s.listing l))
    (congrArg List.reverse (List.filterMap_congr fun info hinfo => ?_))
  cases info with
  | callback cb =>
      have hclassify := CallbackKind.steady_classify hhomes cb
        (fun a ha => mentions_of_mem hinfo (List.mem_cons_of_mem _ (List.mem_map.mpr ⟨a, ha, rfl⟩)))
        (mentions_of_mem hinfo List.mem_cons_self) l default
      exact congrArg (fun kind => some (cb.name, kind)) hclassify
  | function | container | enum | flags | constant => rfl

include hhomes in
theorem Item.stepsFollow_functionItem {e : Env} (he : e.scope = s) {f : Function}
    (hargs : ∀ a ∈ f.args, Mentions s a.type) (hreturns : Mentions s f.returns) (index m : Nat)
    (owner : Option (ContainerKind × Introspect.Container)) (n : Counters) :
    Perhaps (StepsFollow s) fun l => (functionItem s f index m owner n).1.steps? (e.listing l) := by
  subst he
  unfold functionItem
  dsimp only
  split
  · exact .inr ⟨_, .fixed fun _ _ => rfl, rfl⟩
  · exact .inr ⟨_, Call.stepsFollow_of hhomes hargs hreturns _, rfl⟩

include hhomes in
/-- The lines of an item follow the listing. -/
theorem Item.stepsFollow_steps? {e : Env} (he : e.scope = s) {start : Counters} {item : Item}
    (hitem : item ∈ (itemsFrom e 0 start s.space.infos).1) :
    Perhaps (StepsFollow s) fun l => item.steps? (e.listing l) := by
  obtain ⟨k, info, hat, hleaves⟩ := leaves_of_mem hitem
  have hinfo : info ∈ s.space.infos := List.mem_of_getElem? hat
  have hfunction : ∀ f ∈ info.functions, (∀ a ∈ f.args, Mentions s a.type) ∧
    Mentions s f.returns := by
    intro f hf
    have htypes := Info.types_of_mem_functions hf
    exact ⟨fun a ha => mentions_of_mem hinfo
      (htypes (List.mem_cons_of_mem _ (List.mem_map.mpr ⟨a, ha, rfl⟩))),
      mentions_of_mem hinfo (htypes List.mem_cons_self)⟩
  cases hleaves with
  | function f n =>
      obtain ⟨hargs, hreturns⟩ := hfunction f (List.mem_singleton.mpr rfl)
      rw [he]
      exact Item.stepsFollow_functionItem hhomes he hargs hreturns _ _ _ _
  | method n hf =>
      obtain ⟨hargs, hreturns⟩ := hfunction _ (List.mem_of_getElem? hf)
      rw [he]
      exact Item.stepsFollow_functionItem hhomes he hargs hreturns _ _ _ _
  | @callback cb kind hkind =>
      subst he
      exact Callback.stepsFollow_steps? hhomes (fun a ha => mentions_of_mem hinfo
        (List.mem_cons_of_mem _ (List.mem_map.mpr ⟨a, ha, rfl⟩)))
        (mentions_of_mem hinfo List.mem_cons_self) kind
  | ignored | container | enum | flags | constant => exact .inr ⟨_, .fixed fun _ _ => rfl, rfl⟩

end

end Introspect.Binding
