import Introspect.Proofs.Constants
import Introspect.Proofs.Definitions
import Introspect.Proofs.Vocabulary

/-!
# The lines of a file

Functions are not all that a file is made of. The types, the constants, the callbacks and what
stands at the front of the file are woven too, from the same words. A callback that cannot be bound
gives its reason in a marker, and the reason is made of words as well.
-/

namespace Introspect.Binding

open Naming (Locals)
open Source (Step Plain Word Woven Closed Link closed link)

variable {strict : Prop} {U : String → String → Prop}

/-! ## Groups of lines -/

/-- Every line of the steps is woven. -/
def WovenSteps (strict : Prop) (U : String → String → Prop) (steps : List Step) : Prop :=
  ∀ st ∈ steps, Woven strict U st.text

namespace WovenSteps

variable {text head : String} {steps body xs ys : List Step}

theorem nil : WovenSteps strict U [] := List.forall_mem_nil _

theorem cons {st : Step} (h : Woven strict U st.text) (hsteps : WovenSteps strict U steps) :
    WovenSteps strict U (st :: steps) := List.forall_mem_cons.mpr ⟨h, hsteps⟩

theorem append (hx : WovenSteps strict U xs) (hy : WovenSteps strict U ys) :
    WovenSteps strict U (xs ++ ys) :=
  List.forall_mem_append.mpr ⟨hx, hy⟩

theorem lineThen (h : Woven strict U text) (hsteps : WovenSteps strict U steps) :
    WovenSteps strict U (.line text :: steps) := .cons h hsteps

theorem line (h : Woven strict U text) : WovenSteps strict U [.line text] := .cons h .nil

theorem fixed {cs : List Char} (h : Source.clean cs = true) :
    WovenSteps strict U [.line (String.ofList cs)] := .line (Call.woven_fixed h)

theorem group (hhead : Woven strict U head) (hbody : WovenSteps strict U body) :
    WovenSteps strict U (group head body) :=
  ((WovenSteps.cons (hhead.link (link rfl)).woven .nil).append hbody).append
    (.cons (Call.woven_fixed rfl) .nil)

theorem ite {c : Prop} [Decidable c] (hx : WovenSteps strict U xs) (hy : WovenSteps strict U ys) :
    WovenSteps strict U (if c then xs else ys) := by
  split
  · exact hx
  · exact hy

theorem deprecation (deprecated : Bool) : WovenSteps strict U (deprecation deprecated) :=
  .ite (.fixed rfl) .nil

end WovenSteps

/-- Only a plain text is asked of a word that need not be strict. -/
theorem word_of_plain {w : String} (h : Plain w.toList) : Word False w := ⟨h, False.elim⟩

/-! ## Types -/

theorem wovenSteps_getTypeTail {host native : String} (hhost : Woven False U host)
    (hnative : Word False native) (id : Option UInt32) :
    WovenSteps False U (getTypeTail host native id) := by
  cases id with
  | none => exact .nil
  | some id =>
      have hcall : Woven False U ("Ok(ctx) => ctx.invokers.gtype(" ++ toString id ++ ", " ++
          Text.quoted native ++ "),") :=
        (((closed rfl).add (woven_number _) (link rfl)).add (.word (Text.word_quoted hnative))
          (link rfl)).woven
      refine .cons (Call.woven_fixed rfl) (.group ((closed rfl).snoc hhost) ?_)
      refine .group (Call.woven_fixed rfl) (.group (Call.woven_fixed rfl) ?_)
      exact (WovenSteps.line hcall).append
        (.group (Call.woven_fixed rfl) (.cons (Call.woven_fixed rfl) (.fixed rfl)))

namespace Container

variable {s : Scope} {c : Introspect.Container}

theorem wovenSteps_objectSteps (hU : U "*mut c_void" "std::ffi::c_void") (hname : Word False c.name)
    (hparent : ∀ parent, c.parent = some parent → Word False parent) :
    WovenSteps False U (objectSteps s c) := by
  have hpointer : Woven False U pointerType := woven_pointerType hU
  have hblank : WovenSteps False U [Step.line ""] := .fixed rfl
  have hasPtr : WovenSteps False U (group ("fn as_ptr(&self) -> " ++ pointerType)
    [Step.line "self.p"]) :=
    .group ((closed rfl).snoc hpointer) (.fixed rfl)
  have hasAny : WovenSteps False U (group "fn as_any(&self) -> &dyn std::any::Any"
    [Step.line "self"]) :=
    .group (Call.woven_fixed rfl) (.fixed rfl)
  have htypeName : WovenSteps False U
      (group "fn type_name(&self) -> &'static str" [Step.line (Text.quoted c.name)]) :=
    .group (Call.woven_fixed rfl) (.line (.word (Text.word_quoted hname)))
  have hboxed : Woven False U ("Box::new(" ++ c.name ++ " " ++ braced "p" ++ ")") :=
    (((closed rfl).add (.word hname) (link rfl)).add (.word (word_braced (.fixed rfl)))
      (link rfl)).woven
  have hwrap : WovenSteps False U
      (group ("pub fn wrap_object(p: " ++ pointerType ++ ") -> gi::DynObject")
      [Step.line ("Box::new(" ++ c.name ++ " " ++ braced "p" ++ ")")]) :=
    .group ((closed rfl).add hpointer (link rfl)).woven (.line hboxed)
  have hwrapper : WovenSteps False U (group ("impl gi::ObjectWrapper for " ++ c.name)
      (group ("fn as_ptr(&self) -> " ++ pointerType) [Step.line "self.p"] ++ [Step.line ""] ++
        group "fn as_any(&self) -> &dyn std::any::Any" [Step.line "self"] ++ [Step.line ""] ++
        group "fn type_name(&self) -> &'static str" [Step.line (Text.quoted c.name)])) :=
    .group ((closed rfl).snoc (.word hname))
      ((((hasPtr.append hblank).append hasAny).append hblank).append htypeName)
  unfold objectSteps
  refine (((hblank.append hwrapper).append hblank).append
    (.group ((closed rfl).snoc (.word hname)) hwrap)).append ?_
  split
  · next parent hlocal =>
      have hparent' := hparent parent (Option.filter_eq_some_iff.mp hlocal).1
      refine hblank.append (.group
        (((closed rfl).add (.word hname) (link rfl)).snoc (.word hparent')) ?_)
      refine .cons ((closed rfl).add (.word hname) (link rfl)).woven (.cons ?_ (.fixed rfl))
      exact ((closed rfl).add (.word hparent') (link rfl)).snoc (.word (word_braced (.fixed rfl)))
  · exact .nil

theorem wovenSteps_steps (hU : U "*mut c_void" "std::ffi::c_void") (hname : Word False c.name)
    (hparent : ∀ parent, c.parent = some parent → Word False parent) (kind : ContainerKind)
    (getType : Option UInt32) : WovenSteps False U (steps s c kind getType) := by
  have hpointer : Woven False U pointerType := woven_pointerType hU
  have hblank : WovenSteps False U [Step.line ""] := .fixed rfl
  have hlabel : Woven False U kind.symbolKind.label := by
    cases kind <;> exact Call.woven_fixed rfl
  have hremark : Woven False U ("/// " ++ kind.symbolKind.label ++ " `" ++ c.name ++ "`") :=
    (((closed rfl).add hlabel (link rfl)).add (.word hname) (link rfl)).woven
  have hstruct : WovenSteps False U (group ("pub struct " ++ c.name)
      [Step.line ("pub p: " ++ pointerType ++ ",")]) :=
    .group ((closed rfl).snoc (.word hname)) (.line ((closed rfl).add hpointer (link rfl)).woven)
  have hnull : Woven False U (c.name ++ " " ++ braced "p: std::ptr::null_mut()") :=
    ((Woven.word hname).link (link rfl)).snoc (.word (word_braced (.fixed rfl)))
  have hdefault : WovenSteps False U (group ("impl Default for " ++ c.name)
      (group "fn default() -> Self"
        [Step.line (c.name ++ " " ++ braced "p: std::ptr::null_mut()")])) :=
    .group ((closed rfl).snoc (.word hname)) (.group (Call.woven_fixed rfl) (.line hnull))
  have hfromPtr : WovenSteps False U (group ("fn from_ptr(p: " ++ pointerType ++ ") -> Self")
      [Step.line (c.name ++ " " ++ braced "p")]) :=
    .group ((closed rfl).add hpointer (link rfl)).woven
      (.line (((Woven.word hname).link (link rfl)).snoc (.word (word_braced (.fixed rfl)))))
  have hasPtr : WovenSteps False U (group ("fn as_ptr(&self) -> " ++ pointerType)
    [Step.line "self.p"]) :=
    .group ((closed rfl).snoc hpointer) (.fixed rfl)
  have hwrapper : WovenSteps False U (group ("impl gi::Wrapper for " ++ c.name)
      (group ("fn from_ptr(p: " ++ pointerType ++ ") -> Self")
          [Step.line (c.name ++ " " ++ braced "p")] ++
        [Step.line ""] ++ group ("fn as_ptr(&self) -> " ++ pointerType) [Step.line "self.p"])) :=
    .group ((closed rfl).snoc (.word hname)) ((hfromPtr.append hblank).append hasPtr)
  have hobject : WovenSteps False U (if kind = .object then objectSteps s c else []) :=
    .ite (wovenSteps_objectSteps hU hname hparent) .nil
  unfold steps
  exact (((((((((WovenSteps.line hremark).append (.deprecation _)).append (.fixed rfl)).append
    hstruct).append hblank).append hdefault).append hblank).append hwrapper).append hobject).append
      (wovenSteps_getTypeTail (.word hname) hname getType)

end Container

namespace Enumeration

theorem woven_memberBits (isFlags : Bool) (value : Int) :
    Woven False U (toString (memberBits isFlags value)) :=
  .word (word_of_plain (.of_no_slash
    (Constant.no_slash_of_readInteger? (Constant.readInteger?_toString _))))

/-- Every constant is named after a member. -/
theorem exists_member_of_mem {ms : List EnumMember} : ∀ {seen : List String} {p : String × Int},
    p ∈ constants seen ms → ∃ m ∈ ms, p.1 = Naming.memberConst m.name := by
  induction ms with
  | nil => intro seen p hp; cases hp
  | cons m rest ih =>
      intro seen p hp
      rw [constants] at hp
      have hrest : ∀ {seen : List String}, p ∈ constants seen rest →
          ∃ m' ∈ m :: rest, p.1 = Naming.memberConst m'.name := fun h =>
        have ⟨m', hm', heq⟩ := ih h
        ⟨m', List.mem_cons_of_mem _ hm', heq⟩
      split at hp
      · exact hrest hp
      · rcases List.mem_cons.mp hp with heq | hp
        · exact ⟨m, List.mem_cons_self, by rw [heq]⟩
        · exact hrest hp

theorem word_form {isFlags : Bool} {name : String} (h : Word False name) :
    Word False (form isFlags name).host ∧ Word False (form isFlags name).repr ∧
      Word False (form isFlags name).label := by
  cases isFlags with
  | true => exact ⟨Naming.word_flagsType h, .fixed rfl, .fixed rfl⟩
  | false => exact ⟨Naming.word_enumType h, .fixed rfl, .fixed rfl⟩

theorem wovenSteps_steps {e : Introspect.Enumeration} (hname : Word False e.name)
    (hmembers : ∀ m ∈ e.values, Plain m.name.toList) (isFlags : Bool) (getType : Option UInt32) :
    WovenSteps False U (steps e isFlags getType) := by
  obtain ⟨hhost, hrepr, hlabel⟩ := @word_form isFlags e.name hname
  have hblank : WovenSteps False U [Step.line ""] := .fixed rfl
  have hconstant : ∀ p ∈ constants [] e.values, Woven False U
      ("pub const " ++ p.1 ++ ": " ++ (form isFlags e.name).host ++ " = " ++
        (form isFlags e.name).host ++ "(" ++ toString (memberBits isFlags p.2) ++ ");") := by
    intro p hp
    obtain ⟨m, hm, heq⟩ := exists_member_of_mem hp
    have hmember : Word False p.1 := heq ▸ word_of_plain (Naming.plain_memberConst (hmembers m hm))
    exact (((((closed rfl).add (.word hmember) (link rfl)).add (.word hhost) (link rfl)).add
      (.word hhost) (link rfl)).add (woven_memberBits isFlags p.2) (link rfl)).woven
  have hhead : Woven False U ("/// " ++ (form isFlags e.name).label ++ " `" ++ e.name ++ "`") :=
    (((closed rfl).add (.word hlabel) (link rfl)).add (.word hname) (link rfl)).woven
  have hstruct : Woven False U
      ("pub struct " ++ (form isFlags e.name).host ++ "(pub " ++
        (form isFlags e.name).repr ++ ");") :=
    (((closed rfl).add (.word hhost) (link rfl)).add (.word hrepr) (link rfl)).woven
  have hbits : WovenSteps False U
      [Step.line ("pub fn from_bits(bits: " ++ (form isFlags e.name).repr ++ ") -> Self \x7b"),
        Step.line ("    " ++ (form isFlags e.name).host ++ "(bits)"), Step.line "\x7d",
        Step.line "",
        Step.line ("pub fn bits(self) -> " ++ (form isFlags e.name).repr ++ " \x7b"),
        Step.line "    self.0", Step.line "\x7d"] := by
    refine .cons ((closed rfl).add (.word hrepr) (link rfl)).woven (.cons ?_ ?_)
    · exact ((closed rfl).add (.word hhost) (link rfl)).woven
    · refine .cons (Call.woven_fixed rfl) (.cons (Call.woven_fixed rfl) (.cons ?_ ?_))
      · exact ((closed rfl).add (.word hrepr) (link rfl)).woven
      · exact .cons (Call.woven_fixed rfl) (.fixed rfl)
  have hcontains : WovenSteps False U (if isFlags then
      [Step.line "", Step.line "pub fn contains(self, other: Self) -> bool \x7b",
        Step.line "    self.0 & other.0 == other.0", Step.line "\x7d"] else []) :=
    .ite (.cons (Call.woven_fixed rfl) (.cons (Call.woven_fixed rfl)
      (.cons (Call.woven_fixed rfl) (.fixed rfl)))) .nil
  have hor : WovenSteps False U (if isFlags then
      [Step.line ""] ++ group ("impl std::ops::BitOr for " ++ (form isFlags e.name).host)
        [Step.line ("type Output = " ++ (form isFlags e.name).host ++ ";"), Step.line "",
          Step.line ("fn bitor(self, rhs: " ++ (form isFlags e.name).host ++ ") -> " ++
            (form isFlags e.name).host ++ " \x7b"),
          Step.line ("    " ++ (form isFlags e.name).host ++ "(self.0 | rhs.0)"), Step.line "\x7d"]
      else []) := by
    refine .ite (hblank.append (.group ((closed rfl).snoc (.word hhost)) ?_)) .nil
    refine .cons ((closed rfl).add (.word hhost) (link rfl)).woven (.cons (Call.woven_fixed rfl) ?_)
    refine .cons (((closed rfl).add (.word hhost) (link rfl)).add (.word hhost) (link rfl)).woven ?_
    exact .cons ((closed rfl).add (.word hhost) (link rfl)).woven (.fixed rfl)
  unfold steps
  refine ((((((WovenSteps.line hhead).append (.deprecation _)).append
    (.lineThen (Call.woven_fixed rfl) (.lineThen hstruct hblank))).append
      (.group ((closed rfl).snoc (.word hhost)) (((WovenSteps.append ?_ (.ite .nil hblank)).append
        hbits).append hcontains))).append hor).append
          (wovenSteps_getTypeTail (.word hhost) hname getType))
  exact List.forall_mem_map.mpr hconstant

end Enumeration

/-! ## Constants -/

namespace Constant

theorem word_literal {v : ConstantValue} {type literal : String}
    (htext : ∀ t, v = .text t → Plain t.toList) (h : literal? v = some (type, literal)) :
    Word False type ∧ Word False literal := by
  cases v with
  | bool b =>
      cases h
      cases b <;> exact ⟨.fixed rfl, .fixed rfl⟩
  | int i =>
      cases h
      exact ⟨.fixed rfl, word_of_plain (.of_no_slash
        (no_slash_of_readInteger? (readInteger?_toString i)))⟩
  | float x =>
      rw [literal?, Option.ite_none_left_eq_some, Bool.or_eq_true, not_or, Bool.not_eq_true,
        Bool.not_eq_true] at h
      obtain ⟨hfinite, heq⟩ := h
      cases heq
      exact ⟨.fixed rfl, word_of_plain (.of_no_slash
        (readFloat?_text (Binary64.finite_iff.mpr hfinite)).2)⟩
  | text t =>
      cases h
      exact ⟨.fixed rfl, Text.word_quoted (word_of_plain (htext t rfl))⟩

theorem wovenSteps_steps {c : Introspect.Constant} (hname : Word False c.name)
    (htext : ∀ t, c.value = some (.text t) → Plain t.toList) : WovenSteps False U (steps c) := by
  unfold steps
  split
  · next type literal h =>
      obtain ⟨v, hv, hliteral⟩ := Option.bind_eq_some_iff.mp h
      obtain ⟨htype, hliteral⟩ := word_literal (fun t ht => htext t (ht ▸ hv)) hliteral
      exact .line ((((closed rfl).add (.word (Naming.word_itemName hname)) (link rfl)).add
        (.word htype) (link rfl)).add (.word hliteral) (link rfl)).woven
  · exact .line (.word (hname.behindOpen id (by decide) (by simp [Source.loose])))

end Constant

/-! ## Callbacks -/

namespace Trampoline

/-- The names of the parameters are words, and so is the result. -/
structure Spelled (strict : Prop) (U : String → String → Prop) (t : Trampoline) : Prop where
  params : ∀ p ∈ t.params, Word strict p.var
  result : Woven strict U t.result.host

theorem woven_nativeType (hU : U "*mut c_void" "std::ffi::c_void") (c : Cell) :
    Woven strict U (nativeType c) := by
  cases c with
  | ptr => exact woven_pointerType hU
  | gtype => exact Call.woven_fixed rfl
  | _ => exact Call.woven_fixed rfl

section
variable {s : Scope} {args : List Argument}

/-- The parameters are named in words, and so is the reason why there are none. -/
theorem word_paramsFrom (hargs : ∀ a ∈ args, Word strict a.name) : ∀ {i : Nat} {locals : Locals},
    (∀ ps l, paramsFrom s i locals args = .ok (ps, l) → ∀ p ∈ ps, Word strict p.var) ∧
      ∀ reason, paramsFrom s i locals args = .error reason → Word strict reason := by
  induction args with
  | nil =>
      intro i locals
      refine ⟨fun ps l h => ?_, fun _ h => by cases h⟩
      cases h
      exact List.forall_mem_nil _
  | cons a rest ih =>
      intro i locals
      rw [List.forall_mem_cons] at hargs
      have hdirection : Word strict a.direction.name := by
        cases a.direction <;> exact .fixed rfl
      rw [paramsFrom]
      split
      · refine ⟨fun _ _ h => (by cases h), fun reason h => ?_⟩
        cases h
        exact hdirection.join (link rfl) hargs.1
      split
      · refine ⟨fun _ _ h => (by cases h), fun reason h => ?_⟩
        cases h
        exact (hargs.1.behind rfl).link (link rfl)
      · have hrest := @ih hargs.2 (i + 1) (locals.register i a.name).2
        dsimp only
        cases hread : paramsFrom s (i + 1) (locals.register i a.name).2 rest with
        | error reason =>
            refine ⟨fun _ _ h => (by cases h), fun reason h => ?_⟩
            cases h
            exact hrest.2 _ hread
        | ok read =>
            refine ⟨fun ps l h => ?_, fun _ h => by cases h⟩
            cases h
            exact List.forall_mem_cons.mpr ⟨word_alloc hargs.1 locals, hrest.1 _ _ hread⟩

theorem woven_host {t : NativeType} {r : Result} (hU : U "*mut c_void" "std::ffi::c_void")
    (ht : Spells strict U s t) (h : Result.of? s t = some r) : Woven strict U r.host := by
  have hbyTag := (Option.filter_eq_some_iff.mp h).1
  unfold Result.byTag? at hbyTag
  cases htag : t.tag with
  | void =>
      rw [htag] at hbyTag
      dsimp only at hbyTag
      split at hbyTag
      · cases hbyTag
        exact woven_pointerType hU
      · cases hbyTag
        exact Call.woven_fixed rfl
  | boolean | int8 | uint8 | int16 | uint16 | int32 | uint32 | int64 | uint64 | float | double
  | gtype | unichar | utf8 | filename =>
      rw [htag] at hbyTag
      cases hbyTag
      exact Call.woven_fixed rfl
  | interface =>
      rw [htag] at hbyTag
      obtain ⟨q, hq, hkind⟩ := Option.bind_eq_some_iff.mp hbyTag
      have hname := (ht.of_reference hq).2
      cases hkindOf : s.kind q with
      | enum | flags =>
          rw [hkindOf] at hkind
          cases hkind
          exact hname
      | struct | union | object | interface =>
          rw [hkindOf, Option.ite_none_right_eq_some] at hkind
          cases hkind.2
          exact hname
      | callback | unresolved =>
          rw [hkindOf] at hkind
          cases hkind
  | array | glist | gslist | ghash | error =>
      rw [htag] at hbyTag
      cases hbyTag

variable {cb : Introspect.Callback}

theorem spelled_of (hU : U "*mut c_void" "std::ffi::c_void")
    (hargs : ∀ a ∈ cb.args, Word strict a.name) (hreturns : Spells strict U s cb.returns)
    {t : Trampoline} {locals : Locals} (h : of s cb = .ok (t, locals)) : t.Spelled strict U :=
  have ⟨hparams, hresult⟩ := of_eq_ok h
  ⟨(word_paramsFrom hargs).1 _ _ hparams, woven_host hU hreturns hresult⟩

theorem word_error_of (hargs : ∀ a ∈ cb.args, Word strict a.name) {reason : String}
    (h : of s cb = .error reason) : Word strict reason := by
  rw [of] at h
  cases hparams : paramsFrom s 0 {} cb.args with
  | error why =>
      rw [hparams] at h
      cases h
      exact (word_paramsFrom hargs).2 _ hparams
  | ok read =>
      rw [hparams] at h
      dsimp only [bind, Except.bind] at h
      split at h
      · cases h
      · cases h
        exact .fixed rfl

theorem along_ne_of_none (t : NativeType) (place : LengthPlace) :
    ArrayLength.of t none ≠ .along place := by
  unfold ArrayLength.of
  cases t.fixedSize with
  | some n => simp
  | none =>
      dsimp only
      split
      · simp
      · simp

/-- A host value is made for one of the arguments, from its parameter. -/
theorem exists_of_mem_hostParams {skip : Nat} {ps : List (Argument × TrampolineParam)} :
    ∀ {i : Nat} {locals : Locals}, ∀ x ∈ (hostParams s skip i locals ps).1,
      ∃ p ∈ ps, x.1 = p.1 ∧ ∃ l, x.2 = (hostParam s p.1 p.2 l).1 := by
  induction ps with
  | nil => exact List.forall_mem_nil _
  | cons p rest ih =>
      intro i locals
      have hrest : ∀ {i : Nat} {locals : Locals}, ∀ x ∈ (hostParams s skip i locals rest).1,
          ∃ q ∈ p :: rest, x.1 = q.1 ∧ ∃ l, x.2 = (hostParam s q.1 q.2 l).1 := by
        intro i locals x hx
        obtain ⟨q, hq, heq⟩ := ih x hx
        exact ⟨q, List.mem_cons_of_mem _ hq, heq⟩
      rw [hostParams]
      split
      · exact hrest
      · exact List.forall_mem_cons.mpr ⟨⟨p, List.mem_cons_self, rfl, locals, rfl⟩, hrest⟩

/-- The host values of the parameters are woven, unless they are strict and have no mapping. -/
theorem spelled_hostParams (hU : U "*mut c_void" "std::ffi::c_void") {skip i : Nat}
    {locals : Locals} {ps : List (Argument × TrampolineParam)}
    (h : ∀ p ∈ ps, Spells strict U s p.1.type ∧ Word strict p.2.var)
    {x : Argument × Output} (hx : x ∈ (hostParams s skip i locals ps).1)
    (hmapped : strict → x.2.host ≠ todoType) : x.2.Spelled strict U := by
  obtain ⟨p, hp, -, l, heq⟩ := exists_of_mem_hostParams x hx
  obtain ⟨htype, hvar⟩ := h p hp
  have hslot : Word strict p.2.slot :=
    (((word_cell p.2.cell).behind rfl).join (link rfl) hvar).link (link rfl)
  rw [heq] at hmapped ⊢
  exact Output.spelled_of hU hmapped htype hslot fun place hplace =>
    absurd hplace (along_ne_of_none p.1.type place)

theorem woven_signature (hU : U "*mut c_void" "std::ffi::c_void") {t : Trampoline}
    (h : t.Spelled strict U) : Woven strict U t.signature := by
  have hparams : Closed strict U
    (tuple (t.params.map fun p => p.var ++ ": " ++ nativeType p.cell)) :=
    Source.closed_tuple (List.forall_mem_map.mpr fun p hp =>
      ((Woven.word (h.params p hp)).link (link rfl)).snoc (woven_nativeType hU p.cell))
  have hnative : Woven strict U t.result.native := by
    unfold Result.native
    cases t.result.cell with
    | none => exact Call.woven_fixed rfl
    | some c => exact woven_nativeType hU c
  unfold signature
  dsimp only
  split
  · exact hparams.woven
  · exact (hparams.link (link rfl)).snoc hnative

theorem apart_signature (xs : List Char) (t : Trampoline) : Source.Apart xs t.signature.toList := by
  have htuple := Source.apart_tuple xs (t.params.map fun p => p.var ++ ": " ++ nativeType p.cell)
  unfold signature
  dsimp only
  split
  · exact htuple
  · rw [String.append_assoc, String.toList_append]
    exact htuple.append_right (by simp [tuple])

/-- The line that opens the trampoline of a callback. -/
theorem woven_opening (hU : U "*mut c_void" "std::ffi::c_void") {name : String}
    (hname : Word strict name) {t : Trampoline} (h : t.Spelled strict U) :
    Woven strict U ("extern \"C\" fn " ++ Naming.trampoline name ++ t.signature ++ " \x7b") := by
  have hfront : Woven strict U ("extern \"C\" fn " ++ Naming.trampoline name) :=
    (closed rfl).snoc (.word (Naming.word_trampoline hname.plain))
  exact ((hfront.append (woven_signature hU h) (apart_signature _ t)).link (link rfl)).woven

end

end Trampoline

section
variable {s : Scope} {cb : Introspect.Callback}

/-- The names of a callback and of its arguments are words, and its types are spelled with woven
names. -/
structure CallbackNamed (strict : Prop) (U : String → String → Prop) (s : Scope)
    (cb : Introspect.Callback) :
    Prop where
  name : Word strict cb.name
  args : ∀ a ∈ cb.args, Word strict a.name ∧ Spells strict U s a.type
  returns : Spells strict U s cb.returns

theorem CallbackNamed.spelled_zip (h : CallbackNamed strict U s cb) {t : Trampoline}
    (ht : t.Spelled strict U) :
    ∀ p ∈ cb.args.zip t.params, Spells strict U s p.1.type ∧ Word strict p.2.var := by
  rintro ⟨a, p⟩ hp
  obtain ⟨ha, hparam⟩ := List.of_mem_zip hp
  exact ⟨(h.args a ha).2, ht.params p hparam⟩

/-- Why a callback is not bound is said in words. -/
theorem CallbackKind.word_reason (h : CallbackNamed strict U s cb)
    {reason : String} (hkind : classify s cb = .unsupported reason) : Word strict reason := by
  have hargs : ∀ a ∈ cb.args, Word strict a.name := fun a ha => (h.args a ha).1
  unfold classify at hkind
  split at hkind
  · next why hwhy =>
      cases hkind
      exact Trampoline.word_error_of hargs hwhy
  · next t locals ht =>
      split at hkind
      · cases hkind
      split at hkind
      · cases hkind
        exact .fixed rfl
      · dsimp only at hkind
        split at hkind
        · next a o hfound =>
            cases hkind
            obtain ⟨p, hp, heq, -⟩ :=
              Trampoline.exists_of_mem_hostParams _ (List.mem_of_find?_eq_some hfound)
            have ha := hargs _ (List.of_mem_zip hp).1
            rw [← heq] at ha
            exact (ha.behind rfl).link (link rfl)
        · cases hkind

end

namespace ClosureBinding

/-- All that a closure type is put together from is woven. -/
structure Spelled (strict : Prop) (U : String → String → Prop) (b : ClosureBinding) : Prop where
  name : Word strict b.callback.name
  trampoline : b.trampoline.Spelled strict U
  userData : Word strict b.userData.var
  hosts : ∀ o ∈ b.hosts, o.Spelled strict U
  handle : Word strict b.handle
  closure : Word strict b.closure
  function : Word strict b.function

theorem spelled_of {s : Scope} {cb : Introspect.Callback} (hU : U "*mut c_void" "std::ffi::c_void")
    (h : CallbackNamed strict U s cb) {u : Nat} {b : ClosureBinding} (hb : of s cb u = .ok b)
    (hmapped : strict → ∀ o ∈ b.hosts, o.host ≠ todoType) : b.Spelled strict U := by
  unfold of at hb
  split at hb
  · cases hb
  · next t locals ht =>
      dsimp only at hb
      split at hb
      · cases hb
      · next userData huser =>
          cases hb
          have hspelled := Trampoline.spelled_of hU (fun a ha => (h.args a ha).1) h.returns ht
          refine ⟨h.name, hspelled, hspelled.params _ (List.mem_of_getElem? huser), ?_,
            word_alloc (.fixed rfl) _, word_alloc (.fixed rfl) _, word_alloc (.fixed rfl) _⟩
          exact List.forall_mem_map.mpr fun x hx =>
            Trampoline.spelled_hostParams hU (h.spelled_zip hspelled) hx fun hstrict =>
              hmapped hstrict _ (List.mem_map_of_mem hx)

section
variable {b : ClosureBinding}

theorem woven_fallback (r : Result) : Woven strict U r.fallback := by
  unfold Result.fallback
  split <;> exact Call.woven_fixed rfl

theorem woven_giveUp (r : Result) : Woven strict U r.giveUp := by
  unfold Result.giveUp
  split
  · exact Call.woven_fixed rfl
  · exact ((closed rfl).add (woven_fallback _) (link rfl)).woven

theorem woven_convert {e : String} (he : Woven strict U e) (c : Conversion) :
    Woven strict U (c.apply e) := by
  cases c with
  | same => exact he
  | boolToInt | charToInt => exact ((closed rfl).add he (link rfl)).woven
  | text =>
      have hopening : Woven strict U ("gi::c_string(&" ++ e) := (closed rfl).snoc he
      exact hopening.trail rfl
  | bits | pointer => exact (he.link (link rfl)).woven

theorem woven_ending (r : Result) {call : String} (h : Closed strict U call) :
    Woven strict U (r.ending call) := by
  unfold Result.ending
  split
  · exact (h.link (link rfl)).woven
  · exact woven_convert h.woven _

theorem woven_returnType (h : b.Spelled strict U) : Woven strict U b.returnType := by
  unfold returnType
  split
  · exact Call.woven_fixed rfl
  · exact (closed rfl).snoc h.trampoline.result

theorem wovenSteps_body (h : b.Spelled strict U) :
    WovenSteps strict U (b.body.flatMap (·.steps b.trampoline.result)) := by
  have hhandle : Woven strict U
      ("let " ++ b.handle ++ " = gi::handle_from_ptr(" ++ b.userData.var ++ ");") :=
    (((closed rfl).add (.word h.handle) (link rfl)).add (.word h.userData) (link rfl)).woven
  have hclosure : Woven strict U
      ("let " ++ b.closure ++ " = ctx.closures.get(" ++ b.handle ++ ");") :=
    (((closed rfl).add (.word h.closure) (link rfl)).add (.word h.handle) (link rfl)).woven
  have hscope : Woven strict U ("if " ++ b.closure ++ ".scope() == gi::Scope::Async \x7b") :=
    ((closed rfl).add (.word h.closure) (link rfl)).woven
  have hunregister : Woven strict U (Statement.unregister b.handle).text :=
    ((closed rfl).add (.word h.handle) (link rfl)).woven
  have hcallable : Woven strict U ("let Some(" ++ b.function ++ ") = " ++ b.closure ++
      ".callable::<" ++ b.callback.name ++ ">() else \x7b") :=
    ((((closed rfl).add (.word h.function) (link rfl)).add (.word h.closure) (link rfl)).add
      (.word h.name) (link rfl)).woven
  have hargs : ∀ w ∈ (b.hosts.map (·.value)).map (·.expression), Woven strict U w := by
    simp only [List.forall_mem_map]
    exact fun o ho => (h.hosts o ho).value
  have hcall : Woven strict U
      (b.trampoline.result.ending (b.function ++
        tuple ((b.hosts.map (·.value)).map (·.expression)))) :=
    woven_ending _ (Source.closed_applied (.word h.function) hargs)
  simp only [WovenSteps, body, TrampolineStatement.steps, List.flatMap_cons, List.flatMap_nil,
    List.cons_append, List.nil_append, List.forall_mem_cons]
  exact ⟨hhandle, hclosure, hscope, hunregister, Call.woven_fixed rfl, hcallable, woven_giveUp _,
    Call.woven_fixed rfl, hcall, List.forall_mem_nil _⟩

theorem wovenSteps_steps (hU : U "*mut c_void" "std::ffi::c_void") (h : b.Spelled strict U) :
    WovenSteps strict U b.steps := by
  have hremark : Woven strict U ("/// Host closure of callback `" ++ b.callback.name ++ "`") :=
    ((closed rfl).add (.word h.name) (link rfl)).woven
  have htype : Woven strict U ("pub type " ++ b.callback.name ++ " = Box<dyn Fn" ++
      tuple (b.hosts.map (·.host)) ++ b.returnType ++ " + Send + Sync>;") := by
    have hhosts : Closed strict U ("pub type " ++ b.callback.name ++ " = Box<dyn Fn" ++
        tuple (b.hosts.map (·.host))) :=
      Source.closed_applied ((closed rfl).add (.word h.name) (link rfl)).woven
        (List.forall_mem_map.mpr fun o ho => (h.hosts o ho).host)
    exact ((hhosts.snoc (woven_returnType h)).link (link rfl)).woven
  have hhead := Trampoline.woven_opening hU h.name h.trampoline
  have hopening : WovenSteps strict U
      [Step.line ("pub type " ++ b.callback.name ++ " = Box<dyn Fn" ++
          tuple (b.hosts.map (·.host)) ++ b.returnType ++ " + Send + Sync>;"), Step.line "",
        Step.opening ("extern \"C\" fn " ++ Naming.trampoline b.callback.name ++
          b.trampoline.signature ++ " \x7b"),
        Step.opening "let Ok(ctx) = CONTEXT.get() else \x7b", Step.line b.trampoline.result.giveUp,
        Step.closing "\x7d;"] := by
    simp only [WovenSteps, List.forall_mem_cons]
    exact ⟨htype, Call.woven_fixed rfl, hhead, Call.woven_fixed rfl, woven_giveUp _,
      Call.woven_fixed rfl, List.forall_mem_nil _⟩
  exact (((WovenSteps.line hremark).append (.ite (.fixed rfl) .nil)).append hopening).append
    (wovenSteps_body h) |>.append (.cons (Call.woven_fixed rfl) .nil)

end

end ClosureBinding

namespace Callback

variable {s : Scope} {cb : Introspect.Callback}

theorem wovenSteps_manualSteps (hU : U "*mut c_void" "std::ffi::c_void")
    (hname : Word strict cb.name)
    {t : Trampoline} (h : t.Spelled strict U) : WovenSteps strict U (manualSteps cb t) := by
  have hremark : Woven strict U ("/// Trampoline of callback `" ++ cb.name ++
    "`, handled by hand") :=
    ((closed rfl).snoc (.word hname)).trail rfl
  have hhandler : Woven strict U
      ("super::handle_" ++ Naming.camelToSnake cb.name ++ tuple (t.params.map (·.var))) :=
    (Source.closed_applied ((closed rfl).snoc (.word (Naming.word_camelToSnake hname.plain)))
      (List.forall_mem_map.mpr fun p hp => .word (h.params p hp))).woven
  simp only [WovenSteps, manualSteps, List.forall_mem_cons]
  exact ⟨hremark, Trampoline.woven_opening hU hname h, hhandler, Call.woven_fixed rfl,
    List.forall_mem_nil _⟩

theorem wovenSteps_placeholderSteps (hname : Word False cb.name) {reason : String}
    (hreason : Word False reason) : WovenSteps False U (placeholderSteps cb reason) := by
  have hremark : Woven False U ("/// Callback `" ++ cb.name ++ "`") :=
    ((closed rfl).add (.word hname) (link rfl)).woven
  have htype : Woven False U ("pub type " ++ cb.name ++ " = " ++ todoType ++
    todoMark reason ++ ";") :=
    ((woven_marked id (((closed rfl).add (.word hname) (link rfl)).snoc (.word (word_todoType id)))
      hreason).link (link rfl)).woven
  exact ((WovenSteps.line hremark).append (.ite (.fixed rfl) .nil)).append (.line htype)

/-- The lines of a callback are woven, whatever kind it is bound by, when a reason is said in
words. -/
theorem wovenSteps_of_steps? (hU : U "*mut c_void" "std::ffi::c_void")
    (h : CallbackNamed False U s cb)
    {kind : CallbackKind} (hreason : ∀ reason, kind = .unsupported reason → Word False reason)
    {steps : List Step} (hsteps : steps? s cb kind = some steps) : WovenSteps False U steps := by
  have hargs : ∀ a ∈ cb.args, Word False a.name := fun a ha => (h.args a ha).1
  unfold steps? at hsteps
  split at hsteps
  · split at hsteps
    · next b hb =>
        cases hsteps
        exact ClosureBinding.wovenSteps_steps hU (ClosureBinding.spelled_of hU h hb False.elim)
    · cases hsteps
      exact .nil
    · cases hsteps
  · split at hsteps
    · next t locals ht =>
        cases hsteps
        exact wovenSteps_manualSteps hU h.name (Trampoline.spelled_of hU hargs h.returns ht)
    · cases hsteps
      exact .nil
  · next reason =>
      cases hsteps
      exact wovenSteps_placeholderSteps h.name (hreason reason rfl)

end Callback

/-! ## The front of a file -/

theorem wovenSteps_contextSteps {s : Scope} (hname : Word False s.space.name) :
    WovenSteps False U (contextSteps s) :=
  .line ((closed rfl).add (.word (Text.word_quoted hname)) (link rfl)).woven

theorem wovenSteps_destroyNotifySteps (hU : U "*mut c_void" "std::ffi::c_void") :
    WovenSteps False U destroyNotifySteps := by
  have hspelled : destroyNotify.Spelled False U :=
    ⟨List.forall_mem_singleton.mpr (word_of_plain (by decide)), Call.woven_fixed rfl⟩
  have hfront : Woven False U "extern \"C\" fn destroy_notify" := Call.woven_fixed rfl
  have hopening : Woven False U
      ("extern \"C\" fn destroy_notify" ++ destroyNotify.signature ++ " \x7b") :=
    ((hfront.append (Trampoline.woven_signature hU hspelled)
      (Trampoline.apart_signature _ _)).link (link rfl)).woven
  have hunregister : Woven False U (Statement.unregister "gi::handle_from_ptr(data)").text :=
    ((closed rfl).add (Call.woven_fixed rfl) (link rfl)).woven
  show WovenSteps False U [Step.opening _, Step.opening _, Step.line _, Step.closing _,
    Step.closing _]
  simp only [WovenSteps, List.forall_mem_cons]
  exact ⟨hopening, Call.woven_fixed rfl, hunregister, Call.woven_fixed rfl, Call.woven_fixed rfl,
    List.forall_mem_nil _⟩

theorem wovenSteps_initSteps {s : Scope} {wrapped : List String}
    (hU : U "Arc<dyn gi::Repository>" "std::sync::Arc") (hname : Word False s.space.name)
    (hwrapped : ∀ name ∈ wrapped, Word False name) : WovenSteps False U (initSteps s wrapped) := by
  have hremark : Woven False U ("/// Initialize the `" ++ s.space.name ++
      "` binding with the repository resolving its symbols") :=
    ((closed rfl).add (.word hname) (link rfl)).woven
  have hrepository : Woven False U
      ("Arc<dyn gi::Repository>" ++ "/*use:" ++ "std::sync::Arc" ++ "*/") := Source.woven_use hU rfl
  have hsame :
    "pub fn init(repo: Arc<dyn gi::Repository>/*use:std::sync::Arc*/) -> &'static gi::Context" =
      "pub fn init(repo: " ++ ("Arc<dyn gi::Repository>" ++ "/*use:" ++ "std::sync::Arc" ++ "*/") ++
        ") -> &'static gi::Context" := by simp
  have hopening : Woven False U
    "pub fn init(repo: Arc<dyn gi::Repository>/*use:std::sync::Arc*/) -> &'static gi::Context" := by
    rw [hsame]
    exact (((closed rfl).snoc hrepository).append (Call.woven_fixed rfl) ((link rfl).apart _))
  have hregister : WovenSteps False U (wrapped.map fun name =>
      Step.line ("ctx.wrappers.register(" ++ name ++ "::get_type(), " ++ name ++
        "::wrap_object);")) :=
    List.forall_mem_map.mpr fun name hname =>
      (((closed rfl).add (.word (hwrapped name hname)) (link rfl)).add (.word (hwrapped name hname))
        (link rfl)).woven
  exact .cons hremark (.group hopening (((WovenSteps.fixed rfl).append hregister).append
    (.fixed rfl)))

/-! ## Items -/

/-- The text of a constant. -/
def Info.text? : Info → Option String
  | .constant c =>
      match c.value with
      | some (.text t) => some t
      | _ => none
  | _ => none

/-- The texts of the constants of a namespace. -/
def texts (ns : Namespace) : List String := ns.infos.filterMap Info.text?

section
variable {s : Scope} {info : Info} {c : Introspect.Container}

theorem callbackNamed_of_mem (h : s.Worded False U) {cb : Introspect.Callback}
    (hcb : .callback cb ∈ s.space.infos) : CallbackNamed False U s cb where
  name := h.word_name hcb Info.name_mem_names
  args a ha := by
    have htype : a.type ∈ (Info.callback cb).types :=
      List.mem_cons_of_mem _ (List.mem_map.mpr ⟨a, ha, rfl⟩)
    exact ⟨h.word_name hcb (Info.arg_mem_names List.mem_cons_self ha), h.spells hcb htype⟩
  returns := h.spells hcb List.mem_cons_self

theorem word_identity {f : Function} {container : Option Introspect.Container}
    (hname : Word False f.name) (hcontainer : ∀ c, container = some c → Word False c.name) :
    Word False (identity f container) := by
  cases container with
  | none => exact hname
  | some c => exact (hcontainer c rfl).join (link rfl) hname

/-- Why a container is ignored is said in words. -/
theorem word_ignoredReason {kind : ContainerKind} {reason : String} (hname : Word False c.name)
    (h : ignoredReason? s c kind = some reason) : Word False reason := by
  have hpart : ∀ {cs what : List Char} {owner : String} {k : ReferenceKind},
    Source.clean what = true →
      stripSuffix? (String.ofList cs) c.name = some owner →
        Word False (String.ofList what ++ " struct " ++ c.name ++ ", type of " ++ owner ++ " is " ++
          k.name) := by
    intro cs what owner k hwhat howner
    have howner' : Word False owner := by
      refine word_of_plain fun hin => hname.plain ?_
      rw [stripSuffix?_eq_some_iff.mp howner, String.toList_append]
      exact List.infix_append_of_infix_left hin
    have hkind : Word False k.name := by cases k <;> exact .fixed rfl
    exact ((((Word.fixed hwhat).join (link rfl) hname).join (link rfl) howner').join
      (link rfl) hkind)
  rw [ignoredReason?, Option.ite_none_right_eq_some] at h
  obtain ⟨⟨suffix, what⟩, hmem, hfound⟩ := List.exists_of_findSome?_eq_some h.2
  obtain ⟨owner, howner, hfound⟩ := Option.bind_eq_some_iff.mp hfound
  obtain ⟨k, -, hfound⟩ := Option.bind_eq_some_iff.mp hfound
  cases hfound
  simp only [List.mem_cons, Prod.mk.injEq, List.not_mem_nil, or_false] at hmem
  rcases hmem with ⟨rfl, rfl⟩ | ⟨rfl, rfl⟩
  · exact hpart rfl howner
  · exact hpart rfl howner

/-- An item of a function that is left out is a remark with its name. -/
theorem wovenSteps_functionItem {e : Env} {f : Function} {index m : Nat} {n : Counters}
    {container : Option (ContainerKind × Introspect.Container)} {steps : List Step}
    (hname : Word False (identity f (container.map Prod.snd)))
    (hsteps : (functionItem s f index m container n).1.steps? e = some steps)
    (hfunction : ∀ g site, (functionItem s f index m container n).1 = .function g site →
      WovenSteps False U (Call.of e g site).steps) : WovenSteps False U steps := by
  unfold functionItem at hsteps hfunction
  dsimp only at hsteps hfunction
  split at hsteps
  · cases hsteps
    exact .line ((closed rfl).snoc (.word hname))
  · next hblack =>
      rw [if_neg hblack] at hfunction
      cases hsteps
      exact hfunction f _ rfl

/-- The lines of every item of a file are woven from the words of the namespace. -/
theorem wovenSteps_of_mem (hU : U "*mut c_void" "std::ffi::c_void") (h : s.Worded False U)
    (htexts : ∀ t ∈ texts s.space, Plain t.toList) {start : Counters} {item : Item}
    (hitem : item ∈ (itemsFrom (Env.of s) 0 start s.space.infos).1) {steps : List Step}
    (hsteps : item.steps? (Env.of s) = some steps) : WovenSteps False U steps := by
  have hfunction : ∀ g site, item = .function g site →
      WovenSteps False U (Call.of (Env.of s) g site).steps := fun g site heq =>
    Call.woven_steps (Call.spelled_of hU (h.named (mem_emitted.mpr (heq ▸ hitem))) False.elim)
  obtain ⟨k, info, hat, hleaves⟩ := leaves_of_mem hitem
  have hinfo : info ∈ s.space.infos := List.mem_of_getElem? hat
  have hname : Word False info.name := h.word_name hinfo Info.name_mem_names
  have hmember : ∀ m ∈ info.memberNames, Word False m := fun m hm =>
    h.word_name hinfo (by simp [Info.names, hm])
  have hmethod : ∀ f ∈ info.functions, Word False f.name := fun f hf =>
    h.word_name hinfo (by simp only [Info.names, List.mem_append]
                          exact .inl (.inl (.inr (List.mem_map.mpr ⟨f, hf, rfl⟩))))
  cases hleaves with
  | function f n =>
      exact wovenSteps_functionItem (word_identity hname fun _ h => by cases h) hsteps hfunction
  | @method _ c f _ n hf =>
      refine wovenSteps_functionItem (word_identity (hmethod f (List.mem_of_getElem? hf)) ?_) hsteps
        hfunction
      intro c' hc'
      cases hc'
      exact hname
  | callback hkind =>
      refine Callback.wovenSteps_of_steps? hU (callbackNamed_of_mem h hinfo)
        (fun reason heq => ?_) hsteps
      obtain ⟨cb', hcb', -, hclassify⟩ := exists_callback_of_callback? hkind
      exact CallbackKind.word_reason (callbackNamed_of_mem h hcb') (hclassify.symm.trans heq)
  | ignored hreason =>
      cases hsteps
      exact .line ((closed rfl).snoc (.word (word_ignoredReason hname hreason)))
  | @container kind c getType hnone =>
      cases hsteps
      exact Container.wovenSteps_steps hU hname
        (fun parent hparent => hmember parent (Option.mem_toList.mpr hparent)) kind _
  | enum en getType | flags en getType =>
      cases hsteps
      exact Enumeration.wovenSteps_steps hname
        (fun m hm => (hmember _ (List.mem_map.mpr ⟨m, hm, rfl⟩)).plain) _ _
  | constant c =>
      cases hsteps
      refine Constant.wovenSteps_steps hname fun t ht => htexts t ?_
      exact List.mem_filterMap.mpr ⟨_, hinfo, by rw [Info.text?, ht]⟩

end

end Introspect.Binding
