import Introspect.Proofs.Accounts
import Introspect.Proofs.Frames
import Introspect.Proofs.NativeText

/-!
# Values passed by reference

A value passed by reference goes into its slot of the out block before the call and is read back
afterwards. When the callee leaves the slot alone, the reference holds the same value again: a slot
reads as what was put into it, and both ways use the same cell. Of a text there is a copy in the
slot, so that the text comes back up to its first NUL.

The copy of a text is released once. If it was only lent, it is copied back and released at the end;
otherwise it is taken back, which releases it, and nothing is left for the end.
-/

namespace Introspect.Binding

open Naming (Locals)

namespace HostType

/-- The host type of a value of a native type that is passed by reference. -/
def of? (s : Scope) (t : NativeType) : Option HostType :=
  match t.tag with
  | .void => if t.isPointer then some (.cell .ptr) else none
  | .utf8 | .filename => some .text
  | .boolean => if t.isPointer then none else some (.cell .bool)
  | .gtype => if t.isPointer then none else some (.cell .gtype)
  | .unichar => if t.isPointer then none else some (.cell .char)
  | .int8 | .uint8 | .int16 | .uint16 | .int32 | .uint32 | .int64 | .uint64 | .float | .double =>
      if t.isPointer then none else (numericCell? t.tag).map .cell
  | .interface =>
      t.reference.bind fun r =>
        match s.kind r with
        | .struct | .union | .object | .interface =>
            if t.isPointer then some (.wrapper (s.typeName r)) else none
        | .enum => if t.isPointer then none else some (.bits (s.typeName r) .i32)
        | .flags => if t.isPointer then none else some (.bits (s.typeName r) .u32)
        | .callback | .unresolved => none
  | .array | .glist | .gslist | .ghash | .error => none

/-- The cell of a slot that holds a value, or the pointer to its copy. -/
def carrier : HostType → Cell
  | .cell c | .bits _ c => c
  | .wrapper _ | .text => .ptr

/-- How the value behind `var` gets into a slot; `copy` is for a text. -/
def input (T : HostType) (var copy : String) (transfer : Transfer) : Input :=
  match T with
  | .text => Input.text var false transfer copy
  | T => Input.simple T.spelled T.carrier (T.expression var)

/-- How a slot is read as a value. -/
def output (T : HostType) (place : String) (transfer : Transfer) : Output where
  host := T.spelled
  value :=
    match T with
    | .cell c => .cell place c
    | .bits host c => .bits host place c
    | .wrapper host => .wrapped host place
    | .text => .text place false transfer.ownsContainer

/-- All that a value passed by reference adds to a call. -/
def part (T : HostType) (var copy place : String) (transfer : Transfer) : Part where
  slot := .empty
  param := some ⟨var, "&mut " ++ T.spelled⟩
  before := (T.input var copy transfer).before ++ [.fill place (T.input var copy transfer).slot]
  writeBack := [.writeBack var (T.output place transfer).value]
  after := (T.input var copy transfer).after

/-- The blocks that a value takes in native memory, and the memory with them. -/
def lend : (T : HostType) → T.Value → Memory → List Address × Memory
  | .text, s, m => ([(m.putText s).1], (m.putText s).2)
  | .cell _, _, m | .bits _ _, _, m | .wrapper _, _, m => ([], m)

/-- A value as native code sees it. -/
def seen : (T : HostType) → T.Value → T.Value
  | .text, s => untilNul s
  | .cell _, v | .bits _ _, v | .wrapper _, v => v

end HostType

/-! ## Which values have a way in and out -/

/-- A way in without a mapping, or the ways in and out of one host type. -/
def Exchanges (s : Scope) (t : NativeType) (var copy place : String) (transfer : Transfer)
    (v : Input) (o : Output) : Prop :=
  v.host = todoType ∨
    ∃ T, HostType.of? s t = some T ∧ v = T.input var copy transfer ∧ o = T.output place transfer

section Ways

variable {s : Scope} {t : NativeType} {var copy place : String} {transfer : Transfer}

/-- What is only passed by value. -/
theorem exchanges_byValue (T : HostType)
    (h : HostType.of? s t = if t.isPointer then none else some T) :
    Exchanges s t var copy place transfer
      (if t.isPointer then Input.unmapped t.describe else T.input var copy transfer)
      (if t.isPointer then Output.unmapped t.describe else T.output place transfer) := by
  cases hp : t.isPointer with
  | true => exact .inl rfl
  | false =>
      rw [hp] at h
      exact .inr ⟨T, h, rfl, rfl⟩

/-- What is only passed by a pointer. -/
theorem exchanges_byPointer (T : HostType) {what what' : String}
    (h : HostType.of? s t = if t.isPointer then some T else none) :
    Exchanges s t var copy place transfer
      (if t.isPointer then T.input var copy transfer else Input.unmapped what)
      (if t.isPointer then T.output place transfer else Output.unmapped what') := by
  cases hp : t.isPointer with
  | true =>
      rw [hp] at h
      exact .inr ⟨T, h, rfl, rfl⟩
  | false => exact .inl rfl

theorem exchanges_named (r : Reference) (hr : t.reference = some r) (htag : t.tag = .interface) :
    Exchanges s t var copy place transfer (Input.named s t r var false)
      (Output.named s t r place true) := by
  have hof : HostType.of? s t =
      match s.kind r with
      | .struct | .union | .object | .interface =>
          if t.isPointer then some (.wrapper (s.typeName r)) else none
      | .enum => if t.isPointer then none else some (.bits (s.typeName r) .i32)
      | .flags => if t.isPointer then none else some (.bits (s.typeName r) .u32)
      | .callback | .unresolved => none := by
    rw [HostType.of?, htag, hr]
    rfl
  unfold Input.named Output.named
  cases hkind : s.kind r with
  | struct | union | interface =>
      rw [hkind] at hof
      exact exchanges_byPointer (.wrapper (s.typeName r)) hof
  | object =>
      rw [hkind] at hof
      cases hp : t.isPointer with
      | true =>
          rw [hp] at hof
          exact .inr ⟨.wrapper (s.typeName r), hof, rfl, rfl⟩
      | false => exact .inl rfl
  | enum =>
      rw [hkind] at hof
      exact exchanges_byValue (.bits (s.typeName r) .i32) hof
  | flags =>
      rw [hkind] at hof
      exact exchanges_byValue (.bits (s.typeName r) .u32) hof
  | callback | unresolved => exact .inl rfl

end Ways

/-- The expression of a reference goes in and comes out as one host type, if it has a way in. -/
theorem Part.exchanges_exchange {an : Analysis} {i : Nat} {a : Argument} {var value : String}
    {locals : Locals} (h : behind? var a.type.tag = some value) :
    Exchanges an.env.scope a.type var (locals.alloc ("c_" ++ var)).1
      (an.outPlace ((an.outSlot? i).getD 0)) a.transfer
      (exchange an i a value locals).1.1 (exchange an i a value locals).1.2 := by
  have hof := HostType.of?.eq_def an.env.scope a.type
  unfold exchange Input.of Output.of
  cases htag : a.type.tag with
  | array | glist | gslist | ghash | error =>
      rw [htag] at h
      cases h
  | void =>
      rw [htag] at h hof
      cases h
      exact exchanges_byPointer (.cell .ptr) hof
  | utf8 | filename =>
      rw [htag] at h hof
      cases h
      exact .inr ⟨.text, hof, rfl, rfl⟩
  | interface =>
      rw [htag] at h
      cases h
      cases hr : a.type.reference with
      | none => exact .inl rfl
      | some r => exact exchanges_named r hr htag
  | boolean | int8 | uint8 | int16 | uint16 | int32 | uint32 | int64 | uint64 | float | double
  | gtype | unichar =>
      rw [htag] at h hof
      cases h
      exact exchanges_byValue (.cell _) hof

/-- A reference that is no placeholder is passed by the ways of its host type. -/
theorem Part.exists_inout_eq {an : Analysis} {i : Nat} {a : Argument} {var : String}
    {locals : Locals} (h : (inout an i a var locals).1.param ≠ some ⟨var, todoType⟩) :
    ∃ T, HostType.of? an.env.scope a.type = some T ∧
      (inout an i a var locals).1 = T.part var (locals.alloc ("c_" ++ var)).1
        (an.outPlace ((an.outSlot? i).getD 0)) a.transfer := by
  rcases inout_cases an i a var locals with
    hinout | ⟨value, hvalue, hinout | ⟨hex, hinout⟩⟩ <;> rw [hinout] at h
  · exact absurd rfl h
  · exact absurd rfl h
  · rw [exchangeable, Bool.and_eq_true, Bool.and_eq_true, decide_eq_true_eq] at hex
    rcases exchanges_exchange hvalue with htodo | ⟨T, hT, hv, ho⟩
    · exact absurd htodo hex.1.1
    · refine ⟨T, hT, ?_⟩
      rw [hinout, hv, ho]
      rfl

/-! ## There and back -/

/-- The copy of a variable's text has a name of its own. -/
theorem ne_spelled_copy (var : String) (n : Nat) : var ≠ Locals.spelled ("c_" ++ var) n := by
  have hlonger : ∀ rest : String, var ≠ "c_" ++ var ++ rest := by
    intro rest heq
    have hlength := congrArg (fun s : String => s.toList.length) heq
    simp only [String.toList_append, List.length_append] at hlength
    have htwo : "c_".toList.length = 2 := rfl
    omega
  unfold Locals.spelled
  split
  · have h := hlonger ""
    rwa [String.append_empty] at h
  · exact hlonger _

theorem not_mem_spelled_copy {var : String} {c : Char} (hdigit : c.isDigit = false)
    (hfront : c ∉ "c_".toList) (hvar : c ∉ var.toList) (n : Nat) :
    c ∉ (Locals.spelled ("c_" ++ var) n).toList := by
  have hname : c ∉ ("c_" ++ var).toList := by
    rw [String.toList_append, List.mem_append, not_or]
    exact ⟨hfront, hvar⟩
  unfold Locals.spelled
  split
  · exact hname
  · rw [String.toList_append, List.mem_append, not_or]
    refine ⟨hname, fun hmem => ?_⟩
    rw [show toString n = n.repr from rfl, Nat.toList_repr] at hmem
    rw [Nat.isDigit_of_mem_toDigits (by decide) (by decide) hmem] at hdigit
    cases hdigit

theorem IsName.spelled_copy {var : String} (h : IsName var) (n : Nat) :
    IsName (Locals.spelled ("c_" ++ var) n) :=
  ⟨not_mem_spelled_copy (by decide) (by decide) h.1 n,
    not_mem_spelled_copy (by decide) (by decide) h.2 n⟩

namespace Part

/-- The variables that the statements of a part go by. -/
def reliesOn (p : Part) (var : String) : List String :=
  var :: p.before.filterMap Statement.copied?

/-- A value of a host type behind `var` is put into the slot at `place`, and is read back from it as
native code sees it, whatever goes on between the statements that leaves alone what they go by. The
blocks that the value has taken are released once: when it is read back, if it is taken over then,
and else at the end. -/
def RoundTrips (p : Part) (var place : String) (transfer : Transfer) (T : HostType) : Prop :=
  ∀ (v : T.Value) (σ : Frame), σ.locals var = some (.reference T v) → σ.memory.next ≠ 0 →
    ∃ filled, σ.run p.before = some filled ∧ filled.memory = (T.lend v σ.memory).2 ∧
      ∀ called, filled.Keeps called (p.reliesOn var) place →
        ∃ written, called.run p.writeBack = some written ∧
          written.locals var = some (.reference T (T.seen v)) ∧
          written.memory = (if transfer.ownsContainer then
            (T.lend v σ.memory).1.foldl Memory.release called.memory else called.memory) ∧
          ∀ later : Frame, (∀ x ∈ p.reliesOn var, later.locals x = written.locals x) →
            ∃ done, later.run p.after = some done ∧ done.locals = later.locals ∧
              done.memory = (if transfer.ownsContainer then later.memory else
                (T.lend v σ.memory).1.foldl Memory.release later.memory)

section RoundTrip

variable {p : Part} {var place : String} {transfer : Transfer}

/-- What fits into a slot is there and back without a block of its own. -/
theorem roundTrips_of_content {T : HostType} {c : Cell} {reading : SlotReading} (hvar : IsName var)
    (hbefore : p.before = [.fill place (.make c (T.expression var))])
    (hback : p.writeBack = [.writeBack var reading]) (hafter : p.after = [])
    (hfits : ∀ v : T.Value, ∃ w : c.Host, T.content v = some ⟨c, w⟩ ∧ ∀ σ : Frame,
      (σ.places place).as c = w → σ.read? reading = some (⟨T, v⟩, σ.memory))
    (hlend : ∀ v m, T.lend v m = ([], m)) (hseen : ∀ v, T.seen v = v) :
    p.RoundTrips var place transfer T := by
  intro v σ hv _
  rw [hlend, hbefore, hback, hafter, hseen]
  obtain ⟨w, hcontent, hread⟩ := hfits v
  have hslot : σ.slot? (.make c (T.expression var)) = some (.of c w) :=
    Frame.slot?_make hv (subject_expression T hvar) rfl hcontent
  refine ⟨_, Frame.run_singleton (Frame.step_fill hslot), rfl, fun called hkeeps => ?_⟩
  have hvar' : called.locals var = some (.reference T v) :=
    (hkeeps.locals var List.mem_cons_self).trans hv
  have hw : (called.places place).as c = w := by
    rw [hkeeps.slot]
    exact Frame.as_fill σ place c w
  refine ⟨_, Frame.run_singleton (Frame.step_writeBack hvar' (hread called hw)),
    Frame.locals_bind_self _ var _, (ite_self _).symm, fun later _ => ?_⟩
  exact ⟨later, rfl, rfl, (ite_self _).symm⟩

/-- A text is there in a copy, which is released once. -/
theorem roundTrips_text {copy : String} (hcopy : IsName copy) (hne : var ≠ copy) :
    (HostType.text.part var copy place transfer).RoundTrips var place transfer .text := by
  intro s σ hs hnext
  let a := (σ.memory.putText s).1
  let copied := { σ with memory := (σ.memory.putText s).2 }.bind copy (.pointer a)
  have hcopied : copied.locals copy = some (.pointer a) := Frame.locals_bind_self _ copy _
  have hmem : copy ∈ (HostType.text.part var copy place transfer).reliesOn var :=
    List.mem_cons_of_mem var List.mem_cons_self
  refine ⟨copied.fill place (.of .ptr a), ?filled, rfl, fun called hkeeps => ?_⟩
  case filled =>
    have hslot := Frame.slot?_make hcopied (subject_name hcopy) rfl rfl
    exact (Frame.run_cons (Frame.step_copyText hs) _).trans
      (Frame.run_singleton (Frame.step_fill hslot))
  have hvar : called.locals var = some (.reference .text s) := by
    rw [hkeeps.locals var List.mem_cons_self]
    exact (Frame.locals_bind_ne _ hne _).trans hs
  have hplace : (called.places place).as .ptr = a := by
    rw [hkeeps.slot]
    exact Frame.as_fill copied place .ptr a
  have hblock : called.memory.block? a = some (Text.Utf8.encode s.toList ++ [0]) := by
    rw [hkeeps.blocks copy hmem a hcopied]
    exact (Memory.block?_allocate σ.memory _ a).trans (if_pos rfl)
  have htext : called.memory.textAt a = untilNul s :=
    (Memory.textAt_of_block hnext hblock).trans (Memory.visibleText_encode s [])
  have hread := Frame.read?_text hplace transfer.ownsContainer
  rw [htext] at hread
  refine ⟨_, Frame.run_singleton (Frame.step_writeBack hvar hread), Frame.locals_bind_self _ var _,
    rfl, fun later hlater => ?_⟩
  have hpointer : later.locals copy = some (.pointer a) := by
    rw [hlater copy hmem, Frame.locals_bind_ne _ (Ne.symm hne)]
    exact (hkeeps.locals copy hmem).trans hcopied
  cases transfer with
  | nothing => exact ⟨_, Frame.run_singleton (Frame.step_free hpointer), rfl, rfl⟩
  | container | everything => exact ⟨later, rfl, rfl, rfl⟩

/-- Whatever the host type is, its way in and its way out are one way there and back. -/
theorem roundTrips_part (T : HostType) {copy : String} (hvar : IsName var) (hcopy : IsName copy)
    (hne : var ≠ copy) : (T.part var copy place transfer).RoundTrips var place transfer T := by
  cases T with
  | text => exact roundTrips_text hcopy hne
  | cell | bits | wrapper =>
      refine roundTrips_of_content hvar rfl rfl rfl (fun v => ⟨v, rfl, fun σ h => ?_⟩)
        (fun _ _ => rfl) fun _ => rfl
      subst h
      rfl

end RoundTrip

/-- A value passed by reference comes back as it was, unless the callee changes its slot. The
parameter refers to the host type of the native one, and its value goes there and back whatever the
transfer is. -/
theorem inout_roundTrips {an : Analysis} {i : Nat} {a : Argument} {var : String} {locals : Locals}
    (hvar : IsName var) (h : (inout an i a var locals).1.param ≠ some ⟨var, todoType⟩) :
    ∃ T, HostType.of? an.env.scope a.type = some T ∧
      (inout an i a var locals).1.param = some ⟨var, "&mut " ++ T.spelled⟩ ∧
      (inout an i a var locals).1.RoundTrips var (an.outPlace ((an.outSlot? i).getD 0)) a.transfer
        T := by
  obtain ⟨T, hT, hpart⟩ := exists_inout_eq h
  refine ⟨T, hT, congrArg Part.param hpart, ?_⟩
  rw [hpart, Locals.alloc_fst]
  exact roundTrips_part T hvar (hvar.spelled_copy _) (ne_spelled_copy var _)

/-! ### A title -/

/-- A text that is lent, and may be another one after the call. -/
def title : Argument := { name := "title", direction := .inout, type := .utf8 }

/-- A call that hands over a title and gets one back. -/
def retitled : Analysis :=
  (Analysis.of (Env.of { space := { name := "Demo", version := "1.0" } })
    { name := "retitle", symbol := "demo_retitle", args := [title] } { id := 0, index := 0 }).1

/-- What is written for the title. -/
def titlePart : Part := (inout retitled 0 title "title" {}).1

/-- A reference to a text with a NUL in it. -/
def titleFrame : Frame := ({} : Frame).bind "title" (.reference .text "Deed\x00s")

theorem inout_roundTrips_title :
    (IsName "title" ∧ titlePart.param ≠ some ⟨"title", todoType⟩ ∧
      ∃ T, HostType.of? retitled.env.scope title.type = some T ∧
        titlePart.param = some ⟨"title", "&mut " ++ T.spelled⟩ ∧
        titlePart.RoundTrips "title" (retitled.outPlace ((retitled.outSlot? 0).getD 0))
          title.transfer T) ∧
    (titleFrame.run (titlePart.before ++ titlePart.writeBack ++ titlePart.after)).map
      (fun σ => σ.memory.ledger) = some ⟨1, 7, 1⟩ :=
  ⟨⟨by decide, by decide, inout_roundTrips (by decide) (by decide)⟩, by decide +kernel⟩

end Part

end Introspect.Binding
