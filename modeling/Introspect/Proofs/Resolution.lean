import Introspect.Binding.Generate
import Introspect.Proofs.Layout
import Introspect.Proofs.Representation

/-!
# References left open

A description may leave the kind of a reference open, and a binding looks such a reference up by
name when it belongs to the namespace. So it should make no difference to a binding whether the
references of a function have been looked up before. All tables of a binding ask the scope for a
kind, and follow the type with its references looked up; what differs is how a placeholder words the
type it stands for.

One question is asked of the description alone: whether an argument is memory that the caller
provides. A struct or union whose kind was left open gets a slot of the out block there, and none
once it is looked up. These arguments are told apart exactly, and a function has the same binding
both ways if and only if it has none of them.
-/

namespace Introspect

section
variable (s : Scope) (t : NativeType)

@[simp] theorem Scope.elem_resolve : (s.resolve t).elem? = t.elem?.map s.resolve := by
  cases t <;> rfl

@[simp] theorem Scope.lengthArg_resolve : (s.resolve t).lengthArg = t.lengthArg := by
  cases t <;> rfl

@[simp] theorem Scope.fixedSize_resolve : (s.resolve t).fixedSize = t.fixedSize := by
  cases t <;> rfl

@[simp] theorem Scope.zeroTerminated_resolve :
    (s.resolve t).zeroTerminated = t.zeroTerminated := by
  cases t <;> rfl

@[simp] theorem Scope.arrayKind_resolve : (s.resolve t).arrayKind = t.arrayKind := by
  cases t <;> rfl

/-- Looking a reference up again changes nothing. -/
@[simp] theorem Scope.kind_resolveReference (r : Reference) :
    s.kind (s.resolveReference r) = s.kind r := by
  by_cases h : s.kind r = r.kind
  · rw [Scope.resolveReference, h]
    exact h
  · refine Scope.kind_eq ?_
    -- A kind that changes was open, and stays open only where nothing is found.
    intro hopen
    have hkind : r.kind = .unresolved := Decidable.byContradiction fun hr => h (Scope.kind_eq hr)
    exact h (hopen.trans hkind.symm)

@[simp] theorem Scope.name_resolveReference (r : Reference) :
    (s.resolveReference r).name = r.name := rfl

@[simp] theorem Scope.typeName_resolveReference (r : Reference) :
    s.typeName (s.resolveReference r) = s.typeName r := by
  have hlocal : s.localName (s.resolveReference r) = s.localName r := by
    rw [Scope.localName, Scope.localName, s.kind_resolveReference, s.name_resolveReference]
  have hhome : s.foreignHome? (s.resolveReference r) = s.foreignHome? r := rfl
  rw [Scope.typeName, Scope.typeName, hlocal, hhome]

@[simp] theorem Scope.kindOf_resolve : s.kindOf? (s.resolve t) = s.kindOf? t := by
  rw [Scope.kindOf?, s.reference_resolve, Option.map_map]
  exact congrArg (fun g => t.reference.map g) (funext s.kind_resolveReference)

end

end Introspect

namespace Introspect.Binding

open Naming (Locals)
open Source (Step)

/-! ## Wording -/

/-- The same, whatever a remark says. -/
def ArrayHost.unworded : ArrayHost → ArrayHost
  | .unmapped _ => .unmapped ""
  | h => h

/-- The same, whatever a remark says. -/
def SlotValue.unworded : SlotValue → SlotValue
  | .unmapped _ => .unmapped ""
  | v => v

/-- The same, whatever a remark says. -/
def SlotReading.unworded : SlotReading → SlotReading
  | .unmapped _ => .unmapped ""
  | r => r

/-- The same, whatever a remark says. -/
def Statement.unworded : Statement → Statement
  | .fill place v => .fill place v.unworded
  | .writeBack var r => .writeBack var r.unworded
  | .remark _ => .remark ""
  | st => st

/-- The same, whatever its remarks say. -/
def Input.unworded (v : Input) : Input :=
  { v with
    before := v.before.map Statement.unworded
    slot := v.slot.unworded
    after := v.after.map Statement.unworded }

/-- The same, whatever its remark says. -/
def Output.unworded (o : Output) : Output := { o with value := o.value.unworded }

/-! ## Values -/

variable {s : Scope} {t : NativeType}

theorem ArrayHost.of_resolve :
    (ArrayHost.of s (s.resolve t)).unworded = (ArrayHost.of s t).unworded := by
  unfold ArrayHost.of
  rw [s.arrayKind_resolve, s.elem_resolve]
  split
  · rfl
  · cases t.elem? with
    | none => rfl
    | some e =>
        simp only [Option.map_some, s.tag_resolve, s.kindOf_resolve, ArrayHost.ofPointers,
          ArrayHost.ofValues, s.isPointer_resolve]
        cases e.tag with
        | void | boolean | gtype | unichar | array | glist | gslist | ghash | error =>
            dsimp only
            split <;> rfl
        | int8 | uint8 | int16 | uint16 | int32 | uint32 | int64 | uint64 | float | double =>
            simp only [numericCell?]
            split <;> rfl
        | utf8 | filename => rfl
        | interface =>
            dsimp only
            cases s.kindOf? e with
            | none => rfl
            | some k => cases k <;> rfl

namespace Input

theorem scalar_resolve {host value : String} {cell : Cell} :
    (scalar (s.resolve t) host cell value).unworded = (scalar t host cell value).unworded := by
  unfold scalar
  rw [s.isPointer_resolve]
  split <;> rfl

theorem named_resolve {r : Reference} {var : String} {nullable : Bool} :
    (named s (s.resolve t) (s.resolveReference r) var nullable).unworded =
      (named s t r var nullable).unworded := by
  unfold named
  rw [s.kind_resolveReference, s.typeName_resolveReference, s.isPointer_resolve]
  cases s.kind r with
  | struct | union | object | interface => rfl
  | enum | flags => exact scalar_resolve
  | callback | unresolved => rfl

/-- The way in of a type and that of the type looked up differ in wording only. -/
theorem of_resolve {var : String} {nullable : Bool} {transfer : Transfer} {locals : Locals} :
    Prod.map unworded id (of s (s.resolve t) var nullable transfer locals) =
      Prod.map unworded id (of s t var nullable transfer locals) := by
  unfold of
  rw [s.tag_resolve, s.isPointer_resolve, s.reference_resolve]
  cases t.tag with
  | void | utf8 | filename | glist | gslist | ghash | error => rfl
  | boolean | int8 | uint8 | int16 | uint16 | int32 | uint32 | int64 | uint64 | float | double
  | gtype | unichar => exact Prod.ext scalar_resolve rfl
  | array =>
      have h := ArrayHost.of_resolve (s := s) (t := t)
      dsimp only
      cases hhost : ArrayHost.of s t <;> cases hhost' : ArrayHost.of s (s.resolve t) <;>
        rw [hhost, hhost'] at h <;> cases h <;> rfl
  | interface =>
      cases t.reference with
      | none => rfl
      | some r => exact Prod.ext named_resolve rfl

end Input

namespace Output

theorem scalar_resolve {host slot : String} {cell : Cell} :
    (scalar (s.resolve t) host slot cell).unworded = (scalar t host slot cell).unworded := by
  unfold scalar
  rw [s.isPointer_resolve]
  split <;> rfl

theorem bits_resolve {host slot : String} {cell : Cell} :
    (bits (s.resolve t) host slot cell).unworded = (bits t host slot cell).unworded := by
  unfold bits
  rw [s.isPointer_resolve]
  split <;> rfl

theorem named_resolve {r : Reference} {slot : String} {declared : Bool} :
    (named s (s.resolve t) (s.resolveReference r) slot declared).unworded =
      (named s t r slot declared).unworded := by
  unfold named
  rw [s.kind_resolveReference, s.typeName_resolveReference, s.isPointer_resolve]
  cases s.kind r with
  | struct | union | object | interface => rfl
  | enum | flags => exact bits_resolve
  | callback | unresolved => rfl

theorem array_resolve {slot : String} {length : ArrayLength} {locals : Locals} :
    Prod.map unworded id (array s (s.resolve t) slot length locals) =
      Prod.map unworded id (array s t slot length locals) := by
  have h := ArrayHost.of_resolve (s := s) (t := t)
  unfold array
  cases hhost : ArrayHost.of s t <;> cases hhost' : ArrayHost.of s (s.resolve t) <;>
    rw [hhost, hhost'] at h <;> cases h <;> rfl

/-- The way out of a type and that of the type looked up differ in wording only. -/
theorem of_resolve {slot : String} {length : ArrayLength} {o : OutputOptions} {locals : Locals} :
    Prod.map unworded id (of s (s.resolve t) slot length o locals) =
      Prod.map unworded id (of s t slot length o locals) := by
  unfold of
  rw [s.tag_resolve, s.isPointer_resolve, s.reference_resolve]
  cases t.tag with
  | void | utf8 | filename | glist | gslist | ghash | error => rfl
  | boolean | int8 | uint8 | int16 | uint16 | int32 | uint32 | int64 | uint64 | float | double
  | gtype | unichar => exact Prod.ext scalar_resolve rfl
  | array => exact array_resolve
  | interface =>
      cases t.reference with
      | none => rfl
      | some r => exact Prod.ext named_resolve rfl

end Output

end Introspect.Binding

namespace Introspect

/-- The argument with its type looked up. -/
def Scope.resolveArgument (s : Scope) (a : Argument) : Argument :=
  { a with type := s.resolve a.type }

/-- The function with all its types looked up. -/
def Scope.resolveFunction (s : Scope) (f : Function) : Function :=
  { f with args := f.args.map s.resolveArgument, returns := s.resolve f.returns }

@[simp] theorem Scope.type_resolveArgument (s : Scope) (a : Argument) :
    (s.resolveArgument a).type = s.resolve a.type := rfl

@[simp] theorem Scope.args_resolveFunction (s : Scope) (f : Function) :
    (s.resolveFunction f).args = f.args.map s.resolveArgument := rfl

/-- The kind of a struct or union was left open, and the caller provides its memory. -/
def Scope.misreads (s : Scope) (a : Argument) : Bool :=
  a.direction = .out && a.callerAllocates && a.type.tag ≠ .array &&
    a.type.reference.any fun r => r.kind = .unresolved && (s.kind r = .struct || s.kind r = .union)

/-- An argument uses the block as it does with its type looked up, unless it is misread. -/
theorem Scope.usesOutSlot_resolveArgument (s : Scope) (a : Argument) :
    (s.resolveArgument a).usesOutSlot = (a.usesOutSlot && !s.misreads a) := by
  have hdir : (s.resolveArgument a).direction = a.direction := rfl
  have hcaller : (s.resolveArgument a).callerAllocates = a.callerAllocates := rfl
  unfold Argument.usesOutSlot misreads
  rw [hdir, hcaller]
  cases a.direction with
  | «in» | inout => rfl
  | out =>
      unfold Argument.isAggregate NativeType.referenceKind resolveArgument
      rw [s.tag_resolve, s.reference_resolve]
      cases a.callerAllocates with
      | false => rfl
      | true =>
          by_cases harray : a.type.tag = .array
          · simp [harray]
          · cases a.type.reference with
            | none => simp [harray]
            | some r =>
                by_cases hopen : r.kind = .unresolved
                · cases h : s.kind r <;> simp [harray, hopen, h, resolveReference]
                · simp [harray, hopen, resolveReference, Scope.kind_eq hopen]

theorem Scope.usesOutSlot_of_misreads {s : Scope} {a : Argument} (h : s.misreads a = true) :
    a.usesOutSlot = true := by
  simp only [misreads, Bool.and_eq_true, decide_eq_true_eq, Option.any_eq_true] at h
  obtain ⟨⟨⟨hout, -⟩, harray⟩, r, hr, hopen, -⟩ := h
  rw [Argument.usesOutSlot, hout, Argument.isAggregate, NativeType.referenceKind, hr]
  simp [harray, hopen]

theorem Scope.usesOutSlot_eq {s : Scope} {a : Argument} (h : s.misreads a = false) :
    (s.resolveArgument a).usesOutSlot = a.usesOutSlot := by
  rw [s.usesOutSlot_resolveArgument, h, Bool.not_false, Bool.and_true]

end Introspect

namespace Introspect.Binding

open Naming (Locals)

variable {s : Scope}

theorem isSelfArgument_resolve {c : Introspect.Container} {a : Argument} :
    isSelfArgument s c (s.resolveArgument a) = isSelfArgument s c a := by
  unfold isSelfArgument Scope.resolveArgument
  simp only [s.tag_resolve, s.isPointer_resolve, s.reference_resolve]
  cases a.type.reference <;> rfl

theorem isCallback_resolve {a : Argument} :
    isCallback s (s.resolveArgument a) = isCallback s a := by
  unfold isCallback Scope.resolveArgument
  rw [s.tag_resolve, s.kindOf_resolve]

theorem isLength_resolve {a : Argument} : isLength (s.resolveArgument a) = isLength a := by
  unfold isLength Scope.resolveArgument
  rw [s.tag_resolve, s.isPointer_resolve]

theorem isUserData_resolve {a : Argument} : isUserData (s.resolveArgument a) = isUserData a := by
  unfold isUserData Scope.resolveArgument
  rw [s.tag_resolve, s.isPointer_resolve]

theorem assignOutSlots_resolve {args : List Argument} (h : ∀ a ∈ args, s.misreads a = false) :
    ∀ k, assignOutSlots k (args.map s.resolveArgument) = assignOutSlots k args := by
  induction args with
  | nil => intro k; rfl
  | cons a rest ih =>
      intro k
      rw [List.forall_mem_cons] at h
      rw [List.map_cons, assignOutSlots, assignOutSlots, Scope.usesOutSlot_eq h.1, ih h.2,
        ih h.2]

theorem any_resolve {args : List Argument} {p : Argument → Bool}
    (h : ∀ a ∈ args, p (s.resolveArgument a) = p a) (i : Nat) :
    (args.map s.resolveArgument)[i]?.any p = args[i]?.any p := by
  rw [List.getElem?_map]
  cases ha : args[i]? with
  | none => rfl
  | some a => exact h a (List.mem_of_getElem? ha)

theorem hiddenLength_resolve {args : List Argument} (h : ∀ a ∈ args, s.misreads a = false)
    {selfFirst : Bool} {owner : Option Nat} {t : NativeType} :
    hiddenLength? (args.map s.resolveArgument) selfFirst owner (s.resolve t) =
      hiddenLength? args selfFirst owner t := by
  have hslot : ∀ a ∈ args, (s.resolveArgument a).usesOutSlot = a.usesOutSlot := fun a ha =>
    Scope.usesOutSlot_eq (h a ha)
  have hinput : (fun i : Nat => (args.map s.resolveArgument)[i]?.any (!·.usesOutSlot)) =
      fun i : Nat => args[i]?.any (!·.usesOutSlot) :=
    funext (any_resolve fun a ha => congrArg (! ·) (hslot a ha))
  unfold hiddenLength?
  rw [s.lengthArg_resolve, s.tag_resolve]
  cases t.lengthArg with
  | none => rfl
  | some index =>
      rw [Option.bind_eq_bind, Option.bind_some, Option.bind_some, List.getElem?_map, hinput]
      cases ha : args[index]? with
      | none => rfl
      | some a =>
          rw [Option.map_some, Option.bind_eq_bind, Option.bind_some, Option.bind_some,
            isLength_resolve, hslot a (List.mem_of_getElem? ha)]
          rfl

theorem arrayOwners_resolve (f : Function) :
    arrayOwners (s.resolveFunction f) = (arrayOwners f).map (Prod.map id s.resolve) := by
  unfold arrayOwners Scope.resolveFunction
  rw [List.map_append, List.zipIdx_map, List.map_map, List.map_map]
  rfl

theorem hiddenLengths_resolve {f : Function} (h : ∀ a ∈ f.args, s.misreads a = false)
    (selfFirst : Bool) :
    hiddenLengths (s.resolveFunction f) selfFirst = hiddenLengths f selfFirst := by
  unfold hiddenLengths
  rw [arrayOwners_resolve, List.foldl_map]
  congr 1
  funext found ⟨owner, t⟩
  dsimp only [Prod.map_apply, id]
  rw [s.args_resolveFunction, hiddenLength_resolve h]

namespace Analysis

/-- The same analysis of the function looked up. -/
def resolve (an : Analysis) : Analysis :=
  { an with function := an.env.scope.resolveFunction an.function }

@[simp] theorem env_resolve (an : Analysis) : an.resolve.env = an.env := rfl

@[simp] theorem args_resolve (an : Analysis) :
    an.resolve.function.args = an.function.args.map an.env.scope.resolveArgument := rfl

@[simp] theorem returns_resolve (an : Analysis) :
    an.resolve.function.returns = an.env.scope.resolve an.function.returns := rfl

theorem callbackKind_resolve {e : Env} {a : Argument} :
    callbackKind? e (e.scope.resolveArgument a) = callbackKind? e a := by
  unfold callbackKind? Scope.resolveArgument
  rw [e.scope.tag_resolve, e.scope.reference_resolve]
  cases a.type.reference with
  | none => rfl
  | some r =>
      rw [Option.map_some, Option.bind_eq_bind, Option.bind_some, Option.bind_some,
        e.scope.kind_resolveReference]
      rfl

theorem dataArg_resolve {f : Function} {an : Analysis} {a : Argument} {i : Nat} :
    dataArg? (an.env.scope.resolveFunction f) an.resolve (an.env.scope.resolveArgument a) i =
      dataArg? f an a i := by
  have hdata : (fun j => decide (j ≠ i) &&
      ((an.env.scope.resolveFunction f).args[j]?).any isUserData) =
        fun j => decide (j ≠ i) && (f.args[j]?).any isUserData := by
    funext j
    rw [an.env.scope.args_resolveFunction, any_resolve fun _ _ => isUserData_resolve]
  unfold dataArg? takesClosure
  rw [env_resolve, callbackKind_resolve, hdata]
  rfl

theorem pair_resolve {f : Function} {st : Analysis × Locals} {a : Argument} {i : Nat} :
    pair (st.1.env.scope.resolveFunction f) (Prod.map resolve id st)
        (st.1.env.scope.resolveArgument a) i =
      Prod.map resolve id (pair f st a i) := by
  obtain ⟨an, locals⟩ := st
  rw [pair_eq_match, pair_eq_match]
  dsimp only [Prod.map_apply, id]
  rw [dataArg_resolve]
  cases dataArg? f an a i <;> rfl

theorem takesSelfFirst_resolve {e : Env} {f : Function} {site : Site} :
    takesSelfFirst e (e.scope.resolveFunction f) site = takesSelfFirst e f site := by
  unfold takesSelfFirst Scope.resolveFunction
  cases site.container with
  | none => rfl
  | some c =>
      cases f.args with
      | nil => rfl
      | cons a rest =>
          rw [List.map_cons]
          exact congrArg (_ && ·) isSelfArgument_resolve

theorem paramLocals_resolve {f : Function} : paramLocals (s.resolveFunction f) = paramLocals f := by
  unfold paramLocals Scope.resolveFunction
  rw [List.zipIdx_map, List.foldl_map]
  rfl

theorem start_resolve {e : Env} {f : Function} {site : Site}
    (h : ∀ a ∈ f.args, e.scope.misreads a = false) :
    start e (e.scope.resolveFunction f) site = Prod.map resolve id (start e f site) := by
  unfold start
  dsimp only
  rw [takesSelfFirst_resolve, paramLocals_resolve, hiddenLengths_resolve h,
    e.scope.args_resolveFunction, assignOutSlots_resolve h]
  rfl

theorem foldl_pair_resolve {f : Function} {args : List (Argument × Nat)} :
    ∀ st : Analysis × Locals, st.1.env.scope = s →
      (args.map (Prod.map s.resolveArgument id)).foldl
          (fun st (a, i) => pair (s.resolveFunction f) st a i) (Prod.map resolve id st) =
        Prod.map resolve id (args.foldl (fun st (a, i) => pair f st a i) st) := by
  induction args with
  | nil => intro st _; rfl
  | cons ai rest ih =>
      intro st hst
      subst hst
      rw [List.map_cons, List.foldl_cons, List.foldl_cons, ← ih]
      · exact congrArg (List.foldl _ · _) pair_resolve
      · obtain ⟨d, r, h, hpair⟩ := pair_eq f st ai.1 ai.2
        rw [hpair]

/-- Unless an argument is misread, the same is found out about the function looked up. -/
theorem of_resolve {e : Env} {f : Function} {site : Site}
    (h : ∀ a ∈ f.args, e.scope.misreads a = false) :
    of e (e.scope.resolveFunction f) site = Prod.map resolve id (of e f site) := by
  unfold of
  rw [start_resolve h, e.scope.args_resolveFunction, List.zipIdx_map]
  exact foldl_pair_resolve _ rfl

theorem hasResult_resolve (an : Analysis) : an.resolve.hasResult = an.hasResult := by
  unfold hasResult NativeType.isVoid
  rw [an.returns_resolve, an.env.scope.tag_resolve, an.env.scope.isPointer_resolve]
  rfl

theorem role_resolve {an : Analysis} {i : Nat} {a : Argument}
    (h : an.env.scope.misreads a = false) :
    an.resolve.role i (an.env.scope.resolveArgument a) = an.role i a := by
  unfold role
  rw [env_resolve, isCallback_resolve, Scope.usesOutSlot_eq h]
  rfl

theorem arrayLength_resolve {an : Analysis} {locals : Locals} {t : NativeType} :
    an.resolve.arrayLength locals (an.env.scope.resolve t) = an.arrayLength locals t := by
  have hplace : an.resolve.lengthPlace? locals = an.lengthPlace? locals := by
    funext index
    unfold lengthPlace?
    rw [an.args_resolve, List.getElem?_map]
    cases an.function.args[index]? with
    | none => rfl
    | some a =>
        simp only [Option.map_some, Option.bind_eq_bind, Option.bind_some]
        rw [an.env.scope.type_resolveArgument, an.env.scope.tag_resolve]
        rfl
  unfold arrayLength ArrayLength.of
  rw [hplace, an.env.scope.tag_resolve, an.env.scope.lengthArg_resolve,
    an.env.scope.fixedSize_resolve, an.env.scope.zeroTerminated_resolve]

end Analysis

/-- The same, whatever a remark says. -/
def Slot.unworded : Slot → Slot
  | .value v => .value v.unworded
  | slot => slot

/-- The same, whatever its remarks say. -/
def Part.unworded (p : Part) : Part :=
  { p with
    slot := p.slot.unworded
    before := p.before.map Statement.unworded
    writeBack := p.writeBack.map Statement.unworded
    after := p.after.map Statement.unworded
    result := p.result.map (Prod.map id Output.unworded) }

namespace Part

variable {an : Analysis} {i : Nat} {a : Argument} {var : String} {locals : Locals}

theorem callback_resolve :
    callback an.resolve i (an.env.scope.resolveArgument a) var = callback an i a var := by
  unfold callback
  rw [Analysis.env_resolve, Analysis.callbackKind_resolve]
  have hname : (an.env.scope.resolveArgument a).type.referenceName = a.type.referenceName := by
    unfold NativeType.referenceName Scope.resolveArgument
    rw [an.env.scope.reference_resolve, Option.map_map]
    rfl
  rw [hname]
  rfl

theorem input_resolve {e : Env} :
    Prod.map unworded id (input e (e.scope.resolveArgument a) var locals) =
      Prod.map unworded id (input e a var locals) := by
  let part (v : Input) : Part :=
    { slot := .value v.slot, param := some ⟨var, v.host⟩, before := v.before, after := v.after }
  exact congrArg (Prod.map part id) (Input.of_resolve (s := e.scope) (t := a.type))

theorem output_resolve :
    Prod.map unworded id (output an.resolve i (an.env.scope.resolveArgument a) var locals) =
      Prod.map unworded id (output an i a var locals) := by
  let part (o : Output) : Part := { slot := .empty, result := some (var, o) }
  have hlength : an.resolve.arrayLength locals (an.env.scope.resolveArgument a).type =
      an.arrayLength locals a.type := Analysis.arrayLength_resolve
  unfold output
  rw [hlength]
  exact congrArg (Prod.map part id) (Output.of_resolve (s := an.env.scope) (t := a.type))

theorem exchange_resolve (value : String) :
    Prod.map (Prod.map Input.unworded Output.unworded) id
        (exchange an.resolve i (an.env.scope.resolveArgument a) value locals) =
      Prod.map (Prod.map Input.unworded Output.unworded) id (exchange an i a value locals) := by
  unfold exchange
  dsimp only
  rw [an.env.scope.type_resolveArgument, Analysis.env_resolve]
  obtain ⟨hv, hlocals⟩ := Prod.ext_iff.mp (Input.of_resolve (s := an.env.scope) (t := a.type))
  simp only [Prod.map_snd, id] at hlocals
  dsimp only [Scope.resolveArgument]
  rw [hlocals]
  obtain ⟨ho, hrest⟩ := Prod.ext_iff.mp (Output.of_resolve (s := an.env.scope) (t := a.type))
  exact Prod.ext (Prod.ext hv ho) hrest

theorem unworded_exchanged {place : String} {v v' : Input} {o o' : Output}
    (hv : v.unworded = v'.unworded) (ho : o.unworded = o'.unworded) :
    (exchanged place var v o).unworded = (exchanged place var v' o').unworded := by
  have h : ∀ v : Input, ∀ o : Output, (exchanged place var v o).unworded =
      exchanged place var v.unworded o.unworded := by
    intro v o
    unfold exchanged unworded
    rw [List.map_append]
    rfl
  rw [h, h, hv, ho]

theorem exchangeable_of_unworded {v v' : Input} {o o' : Output} (hv : v.unworded = v'.unworded)
    (ho : o.unworded = o'.unworded) : exchangeable v o = exchangeable v' o' := by
  have h : ∀ v o, exchangeable v o = exchangeable v.unworded o.unworded := fun _ _ => rfl
  rw [h, h v', hv, ho]

theorem inout_resolve :
    Prod.map unworded id (inout an.resolve i (an.env.scope.resolveArgument a) var locals) =
      Prod.map unworded id (inout an i a var locals) := by
  unfold inout
  dsimp only
  rw [an.env.scope.type_resolveArgument, an.env.scope.tag_resolve]
  cases behind? var a.type.tag with
  | none => rfl
  | some value =>
      obtain ⟨hvo, hlocals⟩ := Prod.ext_iff.mp (exchange_resolve value)
      obtain ⟨hv, ho⟩ := Prod.ext_iff.mp hvo
      simp only [Prod.map_fst, Prod.map_snd, id] at hv ho hlocals
      dsimp only
      rw [exchangeable_of_unworded hv ho, hlocals]
      split
      · exact Prod.ext (unworded_exchanged hv ho) rfl
      · rfl

theorem of_resolve (i : Nat) (locals : Locals) (h : an.env.scope.misreads a = false) :
    Prod.map unworded id (of an.resolve i (an.env.scope.resolveArgument a) locals) =
      Prod.map unworded id (of an i a locals) := by
  unfold of
  dsimp only
  rw [Analysis.role_resolve h]
  cases an.role i a with
  | self | userData handle | release => rfl
  | hidden h =>
      cases h with
      | fromArray array =>
          dsimp only
          rw [an.env.scope.type_resolveArgument, an.env.scope.tag_resolve]
      | outSlot => rfl
  | callback => exact Prod.ext (congrArg unworded callback_resolve) rfl
  | input => exact input_resolve
  | output => exact output_resolve
  | inout => exact inout_resolve

theorem allFrom_resolve {args : List Argument} (h : ∀ a ∈ args, an.env.scope.misreads a = false) :
    ∀ (i : Nat) (locals : Locals),
      Prod.map (List.map unworded) id
          (allFrom an.resolve i locals (args.map an.env.scope.resolveArgument)) =
        Prod.map (List.map unworded) id (allFrom an i locals args) := by
  induction args with
  | nil => intro i locals; rfl
  | cons a rest ih =>
      intro i locals
      rw [List.forall_mem_cons] at h
      obtain ⟨hpart, hlocals⟩ := Prod.ext_iff.mp (of_resolve i locals h.1)
      obtain ⟨hparts, hrest⟩ := Prod.ext_iff.mp (ih h.2 (i + 1) (of an i a locals).2)
      rw [List.map_cons, allFrom, allFrom]
      simp only [Prod.map_fst, Prod.map_snd, id] at hpart hlocals hparts hrest
      simp only [Prod.map_apply, List.map_cons, hpart, hlocals, hparts, hrest, id]

end Part

namespace Call

/-- The call without the wording of its placeholders. -/
def unworded (c : Call) : Call :=
  { c with
    parts := c.parts.map Part.unworded
    result := c.result.map (Prod.map id Output.unworded) }

theorem resultOf_resolve {an : Analysis} {locals : Locals} :
    (resultOf an.resolve locals).map (Prod.map id Output.unworded) =
      (resultOf an locals).map (Prod.map id Output.unworded) := by
  have hlength : an.resolve.arrayLength locals an.resolve.function.returns =
      an.arrayLength locals an.function.returns := Analysis.arrayLength_resolve
  unfold resultOf
  have hconstructed : an.resolve.constructed? = an.constructed? := rfl
  rw [an.hasResult_resolve, hlength, hconstructed]
  split
  · rfl
  · cases an.constructed? with
    | some c => rfl
    | none =>
        let named (p : Output × Locals) : Option (String × Output) :=
          some ((p.2.alloc "result").1, p.1)
        exact congrArg named (Output.of_resolve (s := an.env.scope) (t := an.function.returns))

/-- Unless an argument is misread, the call of a function is laid out as that of the function looked
up. -/
theorem unworded_of_resolve {e : Env} {f : Function} {site : Site}
    (h : ∀ a ∈ f.args, e.scope.misreads a = false) :
    (of e (e.scope.resolveFunction f) site).unworded =
      { (of e f site).unworded with analysis := (of e f site).analysis.resolve } := by
  have henv := Analysis.of_env e f site
  unfold of
  rw [Analysis.of_resolve h]
  rw [← henv] at h
  obtain ⟨hparts, hlocals⟩ := Prod.ext_iff.mp (Part.allFrom_resolve h 0 (Analysis.of e f site).2)
  simp only [Prod.map_fst, Prod.map_snd, id, henv] at hparts hlocals
  unfold unworded
  dsimp only [Prod.map_fst, Prod.map_snd, id]
  rw [e.scope.args_resolveFunction, hlocals, resultOf_resolve, List.map_append, List.map_append,
    hparts, ← List.map_append, ← List.map_append]
  rfl

/-- Nothing that is written of a call depends on whether its types have been looked up. -/
theorem steps_resolve (c : Call) : steps { c with analysis := c.analysis.resolve } = c.steps := by
  have hremarks : remarks { c with analysis := c.analysis.resolve } = c.remarks := by
    have hnotes : c.analysis.resolve.function.args.filterMap argumentNote =
        c.analysis.function.args.filterMap argumentNote := List.filterMap_map
    unfold remarks
    dsimp only
    rw [hnotes]
    rfl
  have hcall : callSteps { c with analysis := c.analysis.resolve } = c.callSteps := by
    unfold callSteps
    dsimp only
    rw [Analysis.hasResult_resolve]
    rfl
  unfold steps
  rw [hremarks, hcall]
  rfl

theorem hosts_unworded (c : Call) :
    c.unworded.results.map (·.2.host) = c.results.map (·.2.host) := by
  have hown : (c.result.map (Prod.map id Output.unworded)).toList.map (·.2.host) =
      c.result.toList.map (·.2.host) := by
    cases c.result <;> rfl
  have hparts : (c.parts.map Part.unworded).filterMap (fun p => p.result.map (·.2.host)) =
      c.parts.filterMap fun p => p.result.map (·.2.host) := by
    rw [List.filterMap_map]
    refine congrArg (List.filterMap · _) (funext fun p => ?_)
    exact Option.map_map _ _ p.result
  unfold results unworded
  rw [List.map_append, List.map_append, List.map_filterMap, List.map_filterMap, hown, hparts]

/-- No placeholder shows its wording in a host type. -/
theorem signature_unworded (c : Call) : c.unworded.signature = c.signature := by
  have hparams : c.unworded.params = c.params := List.filterMap_map
  have hresult : c.unworded.hostResult = c.hostResult := congrArg oneOrTuple c.hosts_unworded
  have hnone : c.unworded.results.isEmpty = c.results.isEmpty := by
    rw [← List.isEmpty_map, c.hosts_unworded, List.isEmpty_map]
  unfold signature
  rw [hparams, hresult, hnone]
  rfl

/-- The bindings of two calls are the same but for the wording of placeholders. -/
structure Alike (c c' : Call) : Prop where
  signature : c.signature = c'.signature
  slots : c.unworded.slots = c'.unworded.slots
  /-- The out block has as many slots. -/
  outCount : c.analysis.outCount = c'.analysis.outCount
  /-- Each slot is that of the same argument. -/
  outSlots : c.analysis.outSlots = c'.analysis.outSlots
  before : c.unworded.before = c'.unworded.before
  after : c.unworded.after = c'.unworded.after
  results : c.unworded.results = c'.unworded.results
  /-- So are all lines. -/
  steps : c.unworded.steps = c'.unworded.steps

theorem countP_resolve (s : Scope) (args : List Argument) :
    args.countP Argument.usesOutSlot =
      (args.map s.resolveArgument).countP Argument.usesOutSlot + args.countP s.misreads := by
  induction args with
  | nil => rfl
  | cons a rest ih =>
      rw [List.map_cons, List.countP_cons, List.countP_cons, List.countP_cons, ih,
        s.usesOutSlot_resolveArgument]
      cases h : s.misreads a with
      | false => simp only [Bool.not_false, Bool.and_true, Bool.false_eq_true, if_false]; omega
      | true =>
          rw [Scope.usesOutSlot_of_misreads h]
          simp only [Bool.not_true, Bool.and_false, Bool.false_eq_true, if_false, if_true]
          omega

/-- Every misread argument takes one slot more than it would. -/
theorem outCount_resolve (e : Env) (f : Function) (site : Site) :
    (of e f site).analysis.outCount =
      (of e (e.scope.resolveFunction f) site).analysis.outCount +
        f.args.countP e.scope.misreads := by
  rw [outCount_of, outCount_of, countP_resolve e.scope f.args]
  exact Nat.add_right_comm _ _ _

/-- A function has the same binding with its references looked up exactly when it has no argument
that is misread. -/
theorem alike_resolve_iff (e : Env) (f : Function) (site : Site) :
    Alike (of e f site) (of e (e.scope.resolveFunction f) site) ↔
      ∀ a ∈ f.args, e.scope.misreads a = false := by
  constructor
  · intro h
    have hcount := h.outCount
    rw [outCount_resolve] at hcount
    have hnone : f.args.countP e.scope.misreads = 0 := by omega
    intro a ha
    exact Bool.eq_false_iff.mpr (List.countP_eq_zero.mp hnone a ha)
  · intro h
    have hcall : (of e (e.scope.resolveFunction f) site).unworded =
        { (of e f site).unworded with analysis := (of e f site).analysis.resolve } :=
      unworded_of_resolve h
    have hanalysis : (of e (e.scope.resolveFunction f) site).analysis =
        (of e f site).analysis.resolve := congrArg Call.analysis hcall
    constructor
    case signature =>
      have hsignature := signature_unworded (of e (e.scope.resolveFunction f) site)
      rw [hcall] at hsignature
      exact (signature_unworded (of e f site)).symm.trans hsignature
    case slots => rw [hcall]; rfl
    case outCount => rw [hanalysis]; rfl
    case outSlots => rw [hanalysis]; rfl
    case before => rw [hcall]; rfl
    case after => rw [hcall]; rfl
    case results => rw [hcall]; rfl
    case steps =>
      rw [hcall]
      exact ((of e f site).unworded.steps_resolve).symm

end Call

/-! ## Memory of an open kind -/

/-- A function that fills in a struct for its caller. -/
def bounds (kind : ReferenceKind) : Function :=
  { name := "bounds", symbol := "demo_bounds"
    args := [{ name := "rect", direction := .out, callerAllocates := true
               type := .plain { tag := .interface, isPointer := true
                                reference := some ⟨kind, "Rect", none⟩ } }] }

/-- The namespace of the function and its struct. -/
def bounding (kind : ReferenceKind) : Scope :=
  { space := { name := "Demo", version := "1.0"
               infos := [.function (bounds kind), .container .struct { name := "Rect" }] } }

/-- With its kind given the struct is passed in. With its kind left open it is read as a pointer
from a slot of the block, where the callee has written the struct itself. -/
theorem not_alike_bounds :
    (bounding .unresolved).space.validate = .ok (bounding .unresolved).space ∧
      .function (bounds .unresolved) { id := 0, index := 0 } ∈
        (itemsFrom (Env.of (bounding .unresolved)) 0 {} (bounding .unresolved).space.infos).1 ∧
          (bounding .unresolved).resolveFunction (bounds .unresolved) = bounds .struct ∧
            (Call.of (Env.of (bounding .unresolved)) (bounds .unresolved)
              { id := 0, index := 0 }).params = [] ∧
              (Call.of (Env.of (bounding .unresolved)) (bounds .struct)
                { id := 0, index := 0 }).params = [⟨"rect", "Rect"⟩] ∧
                ¬ (Call.of (Env.of (bounding .unresolved)) (bounds .unresolved)
                  { id := 0, index := 0 }).Alike
                    (Call.of (Env.of (bounding .unresolved)) (bounds .struct)
                      { id := 0, index := 0 }) := by
  refine ⟨rfl, List.mem_cons_self, rfl, rfl, rfl, fun h => ?_⟩
  exact absurd h.outCount (by decide)

end Introspect.Binding
