import Introspect.Proofs.Items
import Introspect.Proofs.Placeholders

/-!
# Callbacks and their trampolines

A callback is looked at twice. First it is decided how it is bound, and functions that take it rely
on the decision; later its block is written. Both times the signature and the host values are made
anew, from an argument list that says nothing of the first time. They agree: a block is written as
it was decided, with a parameter of the trampoline for each argument and a parameter of the closure
for each argument but the user data, and what is decided to be bound is bound with nothing left
undone.

The host type of an argument does not depend on the variables that are in use (`host_hostParam`), so
the type of the closure can be told from the arguments alone. A line is what is left of its text,
and that is seen part by part, as the parts are woven.
-/

namespace Introspect.Binding

open Naming (Locals)
open Source (Step Block Plain Finished Word Woven Closed Link closed link strip strip_word
  strip_tuple)

/-- The argument is the pointer that user data comes through. -/
def IsUserData (a : Argument) : Prop :=
  a.name = "user_data" ∧ a.type.tag = .void ∧ a.type.isPointer = true

theorem CallbackKind.userDataIndex_eq_some {args : List Argument} {u : Nat}
    (h : userDataIndex args = some u) :
    (∃ a, args[u]? = some a ∧ IsUserData a) ∧ ∀ a ∈ args.take u, ¬IsUserData a := by
  have hiff : ∀ a : Argument,
      (a.name = "user_data" && a.type.tag = .void && a.type.isPointer) = true ↔ IsUserData a := by
    intro a
    simp only [Bool.and_eq_true, decide_eq_true_eq, IsUserData, and_assoc]
  obtain ⟨hlt, hdata, hbefore⟩ := List.findIdx?_eq_some_iff_getElem.mp h
  refine ⟨⟨args[u], List.getElem?_eq_getElem hlt, (hiff _).mp hdata⟩, fun a ha hdata' => ?_⟩
  obtain ⟨i, hi, rfl⟩ := List.mem_take_iff_getElem.mp ha
  exact hbefore i (by omega) ((hiff _).mpr hdata')

/-! ## Parameters -/

namespace Trampoline

variable {s : Scope} {l : Locals}

/-- The parameter carries the argument, under a variable named after it. -/
structure ParameterOf (s : Scope) (a : Argument) (p : TrampolineParam) : Prop where
  cell : parameterCell? s a.type = some p.cell
  var : ∃ number, p.var = Locals.spelled a.name number

/-- Only arguments that go in have parameters. -/
theorem forall₂_paramsFrom {args : List Argument} : ∀ {i : Nat} {l l' : Locals}
    {ps : List TrampolineParam}, paramsFrom s i l args = .ok (ps, l') →
      (∀ a ∈ args, a.direction = .in) ∧ List.Forall₂ (ParameterOf s) args ps := by
  induction args with
  | nil =>
      intro i l l' ps h
      cases h
      exact ⟨List.forall_mem_nil _, .nil⟩
  | cons a rest ih =>
      intro i l l' ps h
      rw [paramsFrom] at h
      split at h
      · cases h
      · next hin =>
          split at h
          · cases h
          · next cell hcell =>
              dsimp only at h
              cases hrest : paramsFrom s (i + 1) (l.register i a.name).2 rest with
              | error reason =>
                  rw [hrest] at h
                  cases h
              | ok read =>
                  rw [hrest] at h
                  cases h
                  obtain ⟨hinward, hparams⟩ := ih hrest
                  exact ⟨List.forall_mem_cons.mpr ⟨Decidable.not_not.mp hin, hinward⟩,
                    .cons ⟨hcell, _, rfl⟩ hparams⟩

/-! ## Host values -/

/-- The host type of an argument, which bears no trace of the slot it comes in. -/
def hostType (s : Scope) (a : Argument) : String := (hostParam s a ⟨"", .ptr⟩ {}).1.host

theorem host_array {slot slot' : String} {t : NativeType} {length : ArrayLength} {l l' : Locals} :
    (Output.array s t slot length l).1.host = (Output.array s t slot' length l').1.host := by
  unfold Output.array
  cases ArrayHost.of s t with
  | view type path => cases length <;> rfl
  | pointer | unmapped => rfl

theorem host_named {slot slot' : String} {t : NativeType} {r : Reference} {declared : Bool} :
    (Output.named s t r slot declared).host = (Output.named s t r slot' declared).host := by
  unfold Output.named Output.bits
  cases s.kind r with
  | struct | union | interface | object | enum | flags =>
      dsimp only
      repeat' split
      all_goals rfl
  | callback | unresolved => rfl

/-- The host type is the same for all variables that could stand in the slot. -/
theorem host_hostParam {a : Argument} {p : TrampolineParam} {l : Locals} :
    (hostParam s a p l).1.host = hostType s a := by
  unfold hostType hostParam Output.of Output.scalar
  cases a.type.tag with
  | array => exact host_array
  | interface =>
      dsimp only
      cases a.type.reference with
      | some r => exact host_named
      | none => rfl
  | void | boolean | int8 | uint8 | int16 | uint16 | int32 | uint32 | int64 | uint64 | float
  | double | gtype | unichar =>
      dsimp only [numericCell?]
      split <;> rfl
  | utf8 | filename | glist | gslist | ghash | error => rfl

/-- The value that a parameter hands over for its argument. -/
def HostOf (s : Scope) (ap : Argument × TrampolineParam) (o : Output) : Prop :=
  ∃ l, o = (hostParam s ap.1 ap.2 l).1

theorem forall₂_hostParams_of_lt {skip : Nat} {ps : List (Argument × TrampolineParam)} :
    ∀ {i : Nat} {l : Locals}, skip < i →
      List.Forall₂ (HostOf s) ps ((hostParams s skip i l ps).1.map Prod.snd) := by
  induction ps with
  | nil => intro i l _; exact .nil
  | cons p rest ih =>
      intro i l hi
      rw [hostParams, if_neg hi.ne']
      exact .cons ⟨l, rfl⟩ (ih (Nat.lt_succ_of_lt hi))

/-- There is a host value for each argument but the one that is left out, in their order. -/
theorem forall₂_hostParams {skip : Nat} {ps : List (Argument × TrampolineParam)} :
    ∀ {k i : Nat} {l : Locals}, skip = i + k →
      List.Forall₂ (HostOf s) (ps.eraseIdx k) ((hostParams s skip i l ps).1.map Prod.snd) := by
  induction ps with
  | nil => intro k i l _; exact .nil
  | cons p rest ih =>
      intro k i l hskip
      rw [hostParams]
      cases k with
      | zero =>
          rw [if_pos (show i = skip from hskip.symm)]
          exact forall₂_hostParams_of_lt (by omega)
      | succ k =>
          rw [if_neg (by omega)]
          exact .cons ⟨l, rfl⟩ (ih (by omega))

theorem map_host_hostParams {args : List Argument} {ps : List TrampolineParam} {u : Nat}
    (h : ps.length = args.length) :
    (hostParams s u 0 l (args.zip ps)).1.map (·.2.host) = (args.eraseIdx u).map (hostType s) := by
  have hvalues : List.Forall₂ (HostOf s) ((args.zip ps).eraseIdx u)
      ((hostParams s u 0 l (args.zip ps)).1.map Prod.snd) :=
    forall₂_hostParams (Nat.zero_add u).symm
  have htypes : List.Forall₂ (· = ·)
      (((hostParams s u 0 l (args.zip ps)).1.map Prod.snd).map (·.host))
      (((args.zip ps).eraseIdx u).map fun ap => hostType s ap.1) := by
    rw [List.forall₂_map_left_iff, List.forall₂_map_right_iff]
    refine hvalues.flip.imp fun o ap ho => ?_
    obtain ⟨l', rfl⟩ := ho
    exact host_hostParam
  rw [List.forall₂_eq_eq_eq, List.map_map] at htypes
  refine htypes.trans ?_
  rw [← List.eraseIdx_map, ← List.eraseIdx_map, ← Function.comp_def, ← List.map_map,
    List.map_fst_zip h.ge]

/-! ## Lines -/

/-- A signature as it stands in a line. -/
def shownSignature (t : Trampoline) : String :=
  tuple (t.params.map fun p => p.var ++ ": " ++ strip (nativeType p.cell)) ++
    if t.result.isVoid then "" else " -> " ++ strip t.result.native

variable {strict : Prop} {U : String → String → Prop} {t : Trampoline}

theorem strip_signature (hU : U "*mut c_void" "std::ffi::c_void") (h : t.Spelled strict U) :
    strip t.signature = t.shownSignature := by
  have hvar : ∀ p ∈ t.params, Closed strict U (p.var ++ ": ") := fun p hp =>
    (Woven.word (h.params p hp)).link (link rfl)
  have hparam : ∀ p ∈ t.params, strip (p.var ++ ": " ++ nativeType p.cell) =
      p.var ++ ": " ++ strip (nativeType p.cell) := fun p hp => by
    rw [(hvar p hp).strip_append, strip_word ((h.params p hp).link (link rfl))]
  have hparams : ∀ text ∈ t.params.map (fun p => p.var ++ ": " ++ nativeType p.cell),
      Woven strict U text := List.forall_mem_map.mpr fun p hp =>
    (hvar p hp).snoc (woven_nativeType hU p.cell)
  have htuple : strip (tuple (t.params.map fun p => p.var ++ ": " ++ nativeType p.cell)) =
      tuple (t.params.map fun p => p.var ++ ": " ++ strip (nativeType p.cell)) := by
    rw [strip_tuple hparams, List.map_map]
    exact congrArg tuple (List.map_congr_left hparam)
  unfold signature shownSignature
  dsimp only
  split
  · rw [htuple, String.append_empty]
  · have harrow : Link " -> " := link rfl
    have hclosed := (Source.closed_tuple hparams).link harrow
    rw [hclosed.strip_append, (Source.closed_tuple hparams).woven.strip_link harrow, htuple,
      String.append_assoc]

/-- The line that opens a trampoline. -/
theorem strip_opening (hU : U "*mut c_void" "std::ffi::c_void") {name : String}
    (hname : Word strict name) (h : t.Spelled strict U) :
    strip ("extern \"C\" fn " ++ Naming.trampoline name ++ t.signature ++ " \x7b") =
      "extern \"C\" fn " ++ Naming.trampoline name ++ t.shownSignature ++ " \x7b" := by
  have hfront : Word strict ("extern \"C\" fn " ++ Naming.trampoline name) :=
    (Naming.word_trampoline hname.plain).behind rfl
  have hfront' : Woven strict U ("extern \"C\" fn " ++ Naming.trampoline name) := .word hfront
  have hmeet := apart_signature ("extern \"C\" fn " ++ Naming.trampoline name).toList t
  rw [(hfront'.append (woven_signature hU h) hmeet).strip_link (link rfl),
    hfront'.strip_append hmeet, strip_word hfront, strip_signature hU h]

end Trampoline

namespace ClosureBinding

variable {strict : Prop} {U : String → String → Prop} {s : Scope} {cb : Introspect.Callback}
  {b : ClosureBinding}

/-- The binding has the signature that was decided on, and the host values found then. -/
theorem exists_of {t : Trampoline} {l : Locals} {u : Nat} (ht : Trampoline.of s cb = .ok (t, l))
    (hu : u < cb.args.length) :
    ∃ b, of s cb u = .ok b ∧ b.callback = cb ∧ b.trampoline = t ∧
      t.params[u]? = some b.userData ∧
        b.hosts = (Trampoline.hostParams s u 0 l (cb.args.zip t.params)).1.map Prod.snd := by
  have hlt : u < t.params.length := by rwa [Trampoline.length_params ht]
  have hparam : t.params[u]? = some t.params[u] := List.getElem?_eq_getElem hlt
  rw [of, ht]
  dsimp only
  rw [hparam]
  exact ⟨_, rfl, rfl, rfl, rfl, rfl⟩

theorem type_mem_steps (b : ClosureBinding) :
    Step.line ("pub type " ++ b.callback.name ++ " = Box<dyn Fn" ++ tuple (b.hosts.map (·.host)) ++
      b.returnType ++ " + Send + Sync>;") ∈ b.steps :=
  List.mem_append_left _ (List.mem_append_left _ (List.mem_append_right _ (.head _)))

theorem opening_mem_steps (b : ClosureBinding) :
    Step.opening ("extern \"C\" fn " ++ Naming.trampoline b.callback.name ++
      b.trampoline.signature ++ " \x7b") ∈ b.steps :=
  List.mem_append_left _ (List.mem_append_left _ (List.mem_append_right _
    (.tail _ (.tail _ (.head _)))))

theorem handle_mem_steps (b : ClosureBinding) :
    Step.line ("let " ++ b.handle ++ " = gi::handle_from_ptr(" ++ b.userData.var ++ ");") ∈
    b.steps :=
  List.mem_append_left _ (List.mem_append_right _ (.head _))

/-- The line of the closure type. -/
theorem strip_type (h : b.Spelled strict U) :
    strip ("pub type " ++ b.callback.name ++ " = Box<dyn Fn" ++ tuple (b.hosts.map (·.host)) ++
        b.returnType ++ " + Send + Sync>;") =
      "pub type " ++ b.callback.name ++ " = Box<dyn Fn" ++
        tuple (b.hosts.map fun o => strip o.host) ++ strip b.returnType ++ " + Send + Sync>;" := by
  have hfront : Word strict ("pub type " ++ b.callback.name ++ " = Box<dyn Fn") :=
    (h.name.behind rfl).link (link rfl)
  have hfront' : Woven strict U ("pub type " ++ b.callback.name ++ " = Box<dyn Fn") := .word hfront
  have hhosts : ∀ host ∈ b.hosts.map (·.host), Woven strict U host :=
    List.forall_mem_map.mpr fun o ho => (h.hosts o ho).host
  have happlied := Source.closed_applied hfront' hhosts
  rw [(happlied.snoc (woven_returnType h)).strip_link (link rfl), happlied.strip_append,
    hfront'.strip_append (Source.apart_tuple _ _), strip_word hfront, strip_tuple hhosts,
    List.map_map]
  rfl

/-- The line that reads the handle. -/
theorem strip_handle (h : b.Spelled strict U) :
    strip ("let " ++ b.handle ++ " = gi::handle_from_ptr(" ++ b.userData.var ++ ");") =
      "let " ++ b.handle ++ " = gi::handle_from_ptr(" ++ b.userData.var ++ ");" :=
  strip_word ((((h.handle.behind rfl).join (link rfl) h.userData).link (link rfl)) : Word strict _)

end ClosureBinding

/-! ## Blocks -/

open Trampoline (ParameterOf HostOf hostType shownSignature)

/-- The line stands in the block, indented by the groups around it. -/
def HasLine (block : Block) (line : String) : Prop := ∃ k, Source.indented k line ∈ block.lines

theorem hasLine_of_mem {steps : List Step} {st : Step} {line : String} (h : st ∈ steps)
    (hline : strip st.text = line) : HasLine (.ofSteps steps) line := by
  obtain ⟨k, hk⟩ := Block.exists_line_of_mem h
  exact ⟨k, hline ▸ hk⟩

/-- Lines without directives stand in a block as they are, and ask for nothing. -/
theorem Block.ofSteps_of_inert {texts : List String} (h : ∀ t ∈ texts, Source.Inert t.toList) :
    Block.ofSteps (texts.map .line) = { lines := texts } := by
  have hfold : ∀ {texts before : List String}, (∀ t ∈ texts, Source.Inert t.toList) →
      (texts.map Step.line).foldl Block.apply { lines := before } =
      { lines := before ++ texts } := by
    intro texts
    induction texts with
    | nil =>
        intro before _
        rw [List.append_nil]
        rfl
    | cons t rest ih =>
        intro before h
        rw [List.forall_mem_cons] at h
        have hstrip : strip t = t := by
          refine String.toList_inj.mp ?_
          rw [Source.toList_strip, Source.stripped_of_inert h.1]
        have huses : Source.uses t = [] := by
          rw [Source.uses, Source.parts_of_inert h.1, List.filterMap_map]
          exact List.filterMap_eq_nil_iff.mpr fun _ _ => rfl
        have hline : Block.apply { lines := before } (.line t) = { lines := before ++ [t] } := by
          rw [Block.apply, Block.line, hstrip, huses, Block.indented_zero]
          rfl
        rw [List.map_cons, List.foldl_cons, hline, ih h.2, List.append_assoc]
        rfl
  exact hfold h

/-- The lines of a callback that cannot be bound: a placeholder type that says why. -/
def placeholderLines (cb : Introspect.Callback) (reason : String) : List String :=
  ["/// Callback `" ++ cb.name ++ "`"] ++ (if cb.deprecated then ["#[deprecated]"] else []) ++
    ["pub type " ++ cb.name ++ " = " ++ todoType ++ todoMark reason ++ ";"]

theorem ofSteps_placeholderSteps {cb : Introspect.Callback} {reason : String}
    (hname : Plain cb.name.toList) (hreason : Plain reason.toList) :
    Block.ofSteps (Callback.placeholderSteps cb reason) =
      { lines := placeholderLines cb reason } := by
  have hword : Word False cb.name := word_of_plain hname
  have hremark : Word False ("/// Callback `" ++ cb.name ++ "`") :=
    (hword.behind rfl).link (link rfl)
  have hfront : Word False ("pub type " ++ cb.name ++ " = " ++ todoType) :=
    (hword.behind rfl).join (link rfl) (word_todoType id)
  have hmeet : Source.Apart ("pub type " ++ cb.name ++ " = " ++ todoType).toList
      (todoMark reason).toList := by
    refine Source.apart_of_head fun d hd => ?_
    rw [Source.toList_todoMark] at hd
    obtain rfl : '/' = d := Option.some.inj hd
    decide
  have hend : Link ";" := link rfl
  have htype : Source.Inert ("pub type " ++ cb.name ++ " = " ++ todoType ++ todoMark reason ++
      ";").toList := by
    have hmarked := (Source.inert_of_plain hfront.plain).append
      (Source.inert_todoMark hreason) hmeet
      (by simp [Source.toList_todoMark])
    rw [← String.toList_append] at hmarked
    rw [String.toList_append]
    exact hmarked.append (Source.inert_of_no_slash (by decide)) (hend.apart _) (by decide)
  have hsteps : Callback.placeholderSteps cb reason = (placeholderLines cb reason).map .line := by
    unfold Callback.placeholderSteps placeholderLines
    cases cb.deprecated <;> rfl
  have hdeprecated : Source.Inert "#[deprecated]".toList := Source.inert_of_no_slash (by decide)
  rw [hsteps]
  refine Block.ofSteps_of_inert ?_
  unfold placeholderLines
  refine List.forall_mem_append.mpr ⟨List.forall_mem_append.mpr ⟨?_, ?_⟩, ?_⟩
  · exact List.forall_mem_singleton.mpr (Source.inert_of_plain hremark.plain)
  · split
    · exact List.forall_mem_singleton.mpr hdeprecated
    · exact List.forall_mem_nil _
  · exact List.forall_mem_singleton.mpr htype

/-! ## Kinds and blocks -/

/-- The block of a callback bound as a closure, whose handle comes through argument `u`. -/
structure BoundAsClosure (s : Scope) (cb : Introspect.Callback) (block : Block) (u : Nat)
    (b : ClosureBinding) : Prop where
  data : ∃ a, cb.args[u]? = some a ∧ IsUserData a
  first : ∀ a ∈ cb.args.take u, ¬IsUserData a
  inward : ∀ a ∈ cb.args, a.direction = .in
  /-- The trampoline has a parameter for each argument, and shows them in their order. -/
  params : List.Forall₂ (ParameterOf s) cb.args b.trampoline.params
  opening : HasLine block ("extern \"C\" fn " ++ Naming.trampoline cb.name ++
    shownSignature b.trampoline ++ " \x7b")
  /-- The closure has a parameter for each argument but `u`, of the argument's host type. -/
  closure : HasLine block ("pub type " ++ cb.name ++ " = Box<dyn Fn" ++
    tuple ((cb.args.eraseIdx u).map fun a => strip (hostType s a)) ++ strip b.returnType ++
      " + Send + Sync>;")
  mapped : ∀ a ∈ cb.args.eraseIdx u, hostType s a ≠ todoType
  /-- What it is called with comes from the parameters of these arguments. -/
  values : List.Forall₂ (HostOf s) ((cb.args.zip b.trampoline.params).eraseIdx u) b.hosts
  userData : b.trampoline.params[u]? = some b.userData
  handle : HasLine block ("let " ++ b.handle ++ " = gi::handle_from_ptr(" ++ b.userData.var ++ ");")
  complete : block.containsTodo = false

/-- The block of a callback with a handler written by hand, which is passed all parameters. -/
structure HandledByHand (s : Scope) (cb : Introspect.Callback) (block : Block) (t : Trampoline) :
    Prop where
  inward : ∀ a ∈ cb.args, a.direction = .in
  params : List.Forall₂ (ParameterOf s) cb.args t.params
  opening : HasLine block ("extern \"C\" fn " ++ Naming.trampoline cb.name ++ shownSignature t ++
    " \x7b")
  call : HasLine block
    ("super::handle_" ++ Naming.camelToSnake cb.name ++ tuple (t.params.map (·.var)))
  complete : block.containsTodo = false

/-- A block is what a kind of binding says. -/
def Agrees (s : Scope) (cb : Introspect.Callback) (block : Block) : CallbackKind → Prop
  | .closure u => ∃ b, BoundAsClosure s cb block u b
  | .manual => ∃ t, HandledByHand s cb block t
  | .unsupported reason => block = { lines := placeholderLines cb reason }

section
variable {U : String → String → Prop} {s : Scope} {cb : Introspect.Callback}

theorem agrees_closure (hU : U "*mut c_void" "std::ffi::c_void") (h : CallbackNamed True U s cb)
    {u : Nat} (hkind : CallbackKind.classify s cb = .closure u) :
    ∃ steps, Callback.steps? s cb (.closure u) = some steps ∧
      ∃ b, BoundAsClosure s cb (.ofSteps steps) u b := by
  obtain ⟨t, l, ht, hdata, hmapped⟩ := CallbackKind.of_classify_closure hkind
  obtain ⟨⟨a, ha, huser⟩, hfirst⟩ := CallbackKind.userDataIndex_eq_some hdata
  obtain ⟨b, hb, rfl, rfl, hparam, hhosts⟩ :=
    ClosureBinding.exists_of ht (List.getElem?_eq_some_iff.mp ha).1
  obtain ⟨hinward, hparams⟩ := Trampoline.forall₂_paramsFrom (Trampoline.of_eq_ok ht).1
  have hhostMapped : ∀ o ∈ b.hosts, o.host ≠ todoType := by
    rw [hhosts]
    exact List.forall_mem_map.mpr hmapped
  have hspelled := ClosureBinding.spelled_of hU h hb fun _ => hhostMapped
  have hwoven := ClosureBinding.wovenSteps_steps hU hspelled
  have htypes : b.hosts.map (·.host) = (b.callback.args.eraseIdx u).map (hostType s) := by
    rw [hhosts, List.map_map]
    exact Trampoline.map_host_hostParams (Trampoline.length_params ht)
  refine ⟨b.steps, by rw [Callback.steps?, hb], b, ?_⟩
  constructor
  case data => exact ⟨a, ha, huser⟩
  case first => exact hfirst
  case inward => exact hinward
  case params => exact hparams
  case opening =>
    exact hasLine_of_mem b.opening_mem_steps
      (Trampoline.strip_opening hU hspelled.name hspelled.trampoline)
  case closure =>
    have hshown : b.hosts.map (fun o => strip o.host) =
        (b.callback.args.eraseIdx u).map fun a => strip (hostType s a) := by
      have hstripped := congrArg (List.map strip) htypes
      rwa [List.map_map, List.map_map] at hstripped
    exact hasLine_of_mem b.type_mem_steps (hshown ▸ ClosureBinding.strip_type hspelled)
  case mapped =>
    intro a ha
    have hmem : hostType s a ∈ b.hosts.map (·.host) := htypes ▸ List.mem_map_of_mem ha
    obtain ⟨o, ho, heq⟩ := List.mem_map.mp hmem
    exact heq ▸ hhostMapped o ho
  case values =>
    rw [hhosts]
    exact Trampoline.forall₂_hostParams (Nat.zero_add u).symm
  case userData => exact hparam
  case handle =>
    exact hasLine_of_mem b.handle_mem_steps (ClosureBinding.strip_handle hspelled)
  case complete => exact Block.containsTodo_eq_false fun st hst => (hwoven st hst).finished trivial

theorem agrees_manual (hU : U "*mut c_void" "std::ffi::c_void") (h : CallbackNamed True U s cb)
    (hkind : CallbackKind.classify s cb = .manual) :
    ∃ steps, Callback.steps? s cb .manual = some steps ∧
      ∃ t, HandledByHand s cb (.ofSteps steps) t := by
  obtain ⟨t, l, ht⟩ := CallbackKind.of_classify_manual hkind
  obtain ⟨hinward, hparams⟩ := Trampoline.forall₂_paramsFrom (Trampoline.of_eq_ok ht).1
  have hspelled := Trampoline.spelled_of hU (fun a ha => (h.args a ha).1) h.returns ht
  have hwoven := Callback.wovenSteps_manualSteps hU h.name hspelled
  have hvars : ∀ var ∈ t.params.map (·.var), Woven True U var :=
    List.forall_mem_map.mpr fun p hp => .word (hspelled.params p hp)
  refine ⟨Callback.manualSteps cb t, by rw [Callback.steps?, ht], t, ?_⟩
  constructor
  case inward => exact hinward
  case params => exact hparams
  case opening =>
    exact hasLine_of_mem (.tail _ (.head _)) (Trampoline.strip_opening hU h.name hspelled)
  case call =>
    have hfront : Word True ("super::handle_" ++ Naming.camelToSnake cb.name) :=
      (Naming.word_camelToSnake h.name.plain).behind rfl
    have hfront' : Woven True U ("super::handle_" ++ Naming.camelToSnake cb.name) := .word hfront
    refine hasLine_of_mem (.tail _ (.tail _ (.head _))) ?_
    show strip ("super::handle_" ++ Naming.camelToSnake cb.name ++ tuple (t.params.map (·.var))) = _
    rw [hfront'.strip_append (Source.apart_tuple _ _), strip_word hfront, strip_tuple hvars,
      List.map_map]
    exact congrArg (_ ++ tuple ·) (List.map_congr_left fun p hp =>
      strip_word (hspelled.params p hp))
  case complete => exact Block.containsTodo_eq_false fun st hst => (hwoven st hst).finished trivial

end

/-- The names of a callback and the modules of its types are words when nothing undone shows in the
names and no comment opens or closes in the modules. -/
theorem callbackNamed_of {s : Scope} {cb : Introspect.Callback}
    (hnames : ∀ n ∈ (Info.callback cb).names, Plain n.toList ∧ Finished n.toList)
    (hhomes : ∀ n ∈ (Info.callback cb).references.filterMap (·.home) ++ s.config.deps,
      Uncommented n.toList) : CallbackNamed True (fun _ _ => True) s cb := by
  have hword : ∀ n ∈ (Info.callback cb).names, Word True n := fun n hn =>
    ⟨(hnames n hn).1, fun _ => (hnames n hn).2⟩
  have hspells : ∀ t ∈ (Info.callback cb).types, Spells True (fun _ _ => True) s t := by
    intro t ht r hr
    have hmem : r ∈ (Info.callback cb).references := List.mem_flatMap.mpr ⟨t, ht, hr⟩
    have hname : Word True r.name :=
      hword _ (List.mem_append_right _ (List.mem_map.mpr ⟨r, hmem, rfl⟩))
    exact ⟨hname, Scope.woven_typeName hname fun home hhome =>
      ⟨hhomes _ (Scope.dependency_mem hmem hhome), trivial⟩⟩
  constructor
  case name => exact hword _ Info.name_mem_names
  case args =>
    intro a ha
    refine ⟨hword _ (Info.arg_mem_names List.mem_cons_self ha), hspells _ ?_⟩
    exact List.mem_cons_of_mem _ (List.mem_map.mpr ⟨a, ha, rfl⟩)
  case returns => exact hspells _ List.mem_cons_self

/-- A callback is written as it was decided to be bound. -/
theorem classify_agrees {s : Scope} {cb : Introspect.Callback}
    (hnames : ∀ n ∈ (Info.callback cb).names, Plain n.toList ∧ Finished n.toList)
    (hhomes : ∀ n ∈ (Info.callback cb).references.filterMap (·.home) ++ s.config.deps,
      Uncommented n.toList) :
    ∃ steps, Callback.steps? s cb (CallbackKind.classify s cb) = some steps ∧
      Agrees s cb (.ofSteps steps) (CallbackKind.classify s cb) := by
  have hnamed := callbackNamed_of hnames hhomes
  cases hkind : CallbackKind.classify s cb with
  | closure u => exact agrees_closure trivial hnamed hkind
  | manual => exact agrees_manual trivial hnamed hkind
  | unsupported reason =>
      refine ⟨_, rfl, ?_⟩
      exact ofSteps_placeholderSteps hnamed.name.plain (CallbackKind.word_reason hnamed hkind).plain

/-- A callback with user data, and the type of its first argument. -/
def callbackOn (type : NativeType) : Introspect.Callback :=
  { name := "Painter"
    args := [{ name := "on", type },
      { name := "user_data", type := .plain { tag := .void, isPointer := true } }] }

theorem classify_agrees_painter :
    let cb := callbackOn (foreignType "Surface" "Cairo")
    (∀ n ∈ (Info.callback cb).names, Plain n.toList ∧ Finished n.toList) ∧
    (∀ n ∈ (Info.callback cb).references.filterMap (·.home) ++ drawn.config.deps,
      Uncommented n.toList) ∧
    CallbackKind.classify drawn cb = .closure 1 ∧
    (cb.args.eraseIdx 1).map (hostType drawn) =
      ["cairo_1_0::Surface/*use:super::cairo_1_0*/"] ∧
    ∃ steps, Callback.steps? drawn cb (.closure 1) = some steps ∧
      (∃ b, BoundAsClosure drawn cb (.ofSteps steps) 1 b) ∧
        (Block.ofSteps steps).containsTodo = false := by
  intro cb
  have hnames : ∀ n ∈ (Info.callback cb).names, Plain n.toList ∧ Finished n.toList := by decide
  have hhomes : ∀ n ∈ (Info.callback cb).references.filterMap (·.home) ++ drawn.config.deps,
      Uncommented n.toList := by decide
  have hkind : CallbackKind.classify drawn cb = .closure 1 := by decide +kernel
  obtain ⟨steps, hsteps, hagrees⟩ := classify_agrees hnames hhomes
  rw [hkind] at hsteps hagrees
  obtain ⟨b, hbound⟩ := hagrees
  exact ⟨hnames, hhomes, hkind, by decide +kernel, steps, hsteps, ⟨b, hbound⟩, hbound.complete⟩

/-- What is left of the directive behind the name shows the placeholder type, which no argument
has. -/
theorem callbackOn_broken_unfinished :
    let cb := callbackOn (foreignType "gi::To" "x*/do")
    let s : Scope := ⟨{ name := "Demo", version := "1.0", infos := [.callback cb] }, {}⟩
    (∀ n ∈ (Info.callback cb).names ++ (Info.callback cb).references.filterMap (·.home),
      Plain n.toList ∧ Finished n.toList) ∧
    CallbackKind.classify s cb = .closure 1 ∧
    ∃ steps, Callback.steps? s cb (.closure 1) = some steps ∧
      (Block.ofSteps steps).containsTodo = true := by
  refine ⟨by decide, by decide +kernel, ?_⟩
  exact ⟨_, rfl, by decide +kernel⟩

end Introspect.Binding
