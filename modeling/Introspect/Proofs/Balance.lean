import Introspect.Binding.Function
import Introspect.Proofs.Accounts
import Mathlib.Data.List.Count

/-!
# Functions give back what they take

The body of a generated function goes through its stages in order: it looks the invoker up, takes
what it needs, calls, writes references back, gives up what it took, and only then returns an error
or its values. What it gives up is found in its text, where no other line looks like one that gives
something up.

A line is meant as it is written, before the directives in it are taken out.
-/

namespace Introspect

theorem head?_append {a b : String} {ch : Char} (h : a.toList.head? = some ch) :
    (a ++ b).toList.head? = some ch := by
  rw [String.toList_append, List.head?_append, h, Option.some_or]

theorem getLast?_append {a b : String} {ch : Char} (h : b.toList.getLast? = some ch) :
    (a ++ b).toList.getLast? = some ch := by
  rw [String.toList_append, List.getLast?_append, h, Option.some_or]

end Introspect

namespace Introspect.Naming.Locals

theorem head?_spelled {name : String} {ch : Char} (h : name.toList.head? = some ch)
    (number : Nat) : (spelled name number).toList.head? = some ch := by
  unfold spelled
  split
  · exact h
  · exact head?_append h

end Introspect.Naming.Locals

namespace Introspect.Binding

open Naming (Locals)
open Source (Step)

/-! ## The body of a generated function -/

/-- What the body of a generated function is made of. -/
inductive Act
  /-- The way to the invoker, with the early return of one that is not found. -/
  | lookup
  | block
  | statement (st : Statement)
  | slots
  | call
  | errorReturn
  | results
deriving DecidableEq

/-- The stage of a call that the act belongs to. -/
def Act.stage : Act → Stage
  | .lookup => .lookup
  | .block | .slots => .taking
  | .statement st => st.stage
  | .call => .call
  | .errorReturn => .errorReturn
  | .results => .results

instance : LE Stage := ⟨fun s t => s.ctorIdx ≤ t.ctorIdx⟩

instance (s t : Stage) : Decidable (s ≤ t) :=
  inferInstanceAs (Decidable (s.ctorIdx ≤ t.ctorIdx))

/-- Acts in the order of their stages, which run from one stage to another. -/
structure Staged (first last : Stage) (acts : List Act) : Prop where
  ordered : acts.Pairwise fun x y => x.stage ≤ y.stage
  within : ∀ x ∈ acts, first ≤ x.stage ∧ x.stage ≤ last

namespace Staged

variable {first last s t : Stage} {l l' : List Act}

theorem of_eq (h : ∀ x ∈ l, x.stage = s) : Staged s s l where
  ordered := List.pairwise_of_forall_mem_list fun x hx y hy => by
    rw [h x hx, h y hy]
    exact Nat.le_refl _
  within := by
    intro x hx
    rw [h x hx]
    exact ⟨Nat.le_refl _, Nat.le_refl _⟩

/-- Acts go on at the stage they have reached, or later. -/
theorem append (h : Staged first s l) (h' : Staged t last l') (hst : s ≤ t) (hfirst : first ≤ t)
    (hlast : s ≤ last) : Staged first last (l ++ l') where
  ordered := by
    refine List.pairwise_append.mpr ⟨h.ordered, h'.ordered, fun x hx y hy => ?_⟩
    exact Nat.le_trans (h.within x hx).2 (Nat.le_trans hst (h'.within y hy).1)
  within := by
    intro x hx
    rcases List.mem_append.mp hx with hx | hx
    · exact ⟨(h.within x hx).1, Nat.le_trans (h.within x hx).2 hlast⟩
    · exact ⟨Nat.le_trans hfirst (h'.within x hx).1, (h'.within x hx).2⟩

end Staged

namespace Call

/-- What a call does, in its order. -/
def acts (c : Call) : List Act :=
  [.lookup, .block] ++ c.before.map .statement ++ [.slots, .call] ++ c.after.map .statement ++
    [.errorReturn, .results]

/-- The line that declares the block of out slots, where a call has one. -/
def blockSteps (c : Call) : List Step :=
  match c.block? with
  | none => []
  | some block =>
      [Step.line ("let mut " ++ block ++ " = [gi::Argument::ZERO; " ++
        toString c.analysis.outCount ++ "];")]

/-- The lines that declare the argument slots and the result slot. -/
def slotSteps (c : Call) : List Step :=
  (if c.parts.isEmpty then []
    else [Step.line ("let mut " ++ c.analysis.argsVar ++ " = [" ++
      ", ".intercalate (c.slots.map (·.text)) ++ "];")]) ++
  if c.analysis.hasResult then
    [Step.line ("let mut " ++ c.analysis.resultVar ++ " = gi::Argument::ZERO;")]
  else []

/-- What the invoker is called with. -/
def callArgs (c : Call) : String :=
  tuple [if c.parts.isEmpty then "&mut []" else "&mut " ++ c.analysis.argsVar,
    if c.analysis.hasResult then "Some(&mut " ++ c.analysis.resultVar ++ ")" else "None",
    match c.block? with
    | none => "std::ptr::null_mut()"
    | some block => block ++ ".as_mut_ptr()"]

/-- The lines of an act. -/
def stepsOf (c : Call) : Act → List Step
  | .lookup => c.lookupSteps
  | .block => c.blockSteps
  | .statement st => [Step.line st.text]
  | .slots => c.slotSteps
  | .call =>
      [Step.line ("unsafe " ++ braced (c.analysis.invokerVar ++ ".call" ++ c.callArgs) ++ ";")]
  | .errorReturn => c.errorSteps
  | .results => c.resultSteps

/-- Lines as the body of a call's function, within the `impl` of its container. -/
def framed (c : Call) (body : List Step) : List Step :=
  let function := c.remarks ++ [Step.opening c.signature] ++ body ++ [Step.closing "\x7d"]
  match c.analysis.site.container with
  | some (_, container) =>
      [Step.opening ("impl " ++ container.name ++ " \x7b")] ++ function ++ [Step.closing "\x7d"]
  | none => function

theorem flatMap_statements (c : Call) (l : List Statement) :
    (l.map Act.statement).flatMap c.stepsOf = l.map fun st => Step.line st.text := by
  rw [List.flatMap_map]
  exact List.flatMap_pure_eq_map _ _

/-- The body of a generated function is that of its acts. -/
theorem steps_eq (c : Call) : c.steps = c.framed (c.acts.flatMap c.stepsOf) := by
  have hcall : c.callSteps = c.blockSteps ++ c.before.map (fun st => Step.line st.text) ++
      c.slotSteps ++ c.stepsOf .call := by
    unfold callSteps
    rw [slotSteps, ← List.append_assoc]
    rfl
  have hacts : c.acts.flatMap c.stepsOf = c.lookupSteps ++ c.callSteps ++
      c.after.map (fun st => Step.line st.text) ++ c.errorSteps ++ c.resultSteps := by
    rw [acts]
    simp only [List.flatMap_append, flatMap_statements, List.flatMap_cons, List.flatMap_nil,
      List.append_nil, hcall, List.append_assoc, stepsOf]
  have hfunction : c.remarks ++ [Step.opening c.signature] ++ c.lookupSteps ++ c.callSteps ++
      c.after.map (fun st => Step.line st.text) ++ c.errorSteps ++ c.resultSteps ++
        [Step.closing "\x7d"] =
      c.remarks ++ [Step.opening c.signature] ++ c.acts.flatMap c.stepsOf ++
        [Step.closing "\x7d"] := by
    rw [hacts]
    simp only [List.append_assoc]
  unfold steps framed
  cases c.analysis.site.container with
  | none => exact hfunction
  | some p =>
      exact congrArg (fun l => [Step.opening ("impl " ++ p.2.name ++ " \x7b")] ++ l ++
        [Step.closing "\x7d"]) hfunction

theorem staged_acts (e : Env) (f : Function) (site : Site) :
    Staged .lookup .results (Call.of e f site).acts := by
  have hone : ∀ x : Act, Staged x.stage x.stage [x] := fun x =>
    .of_eq (List.forall_mem_singleton.mpr rfl)
  have hstatements : ∀ {s : Stage} {l : List Statement}, (∀ st ∈ l, st.stage = s) →
      Staged s s (l.map Act.statement) := fun h =>
    .of_eq (List.forall_mem_map.mpr h)
  have htaking : Staged .lookup .taking
      ([.lookup, .block] ++ (Call.of e f site).before.map Act.statement) :=
    ((hone .lookup).append (hone .block) (by decide) (by decide) (by decide)).append
      (hstatements fun _ => stage_before) (by decide) (by decide) (by decide)
  have hcall : Staged .taking .call [.slots, .call] :=
    (hone .slots).append (hone .call) (by decide) (by decide) (by decide)
  have hafter : Staged .writeBack .givingUp ((Call.of e f site).after.map Act.statement) := by
    rw [after, List.map_append]
    exact (hstatements fun _ => stage_writeBack).append (hstatements fun _ => stage_givingUp)
      (by decide) (by decide) (by decide)
  have hend : Staged .errorReturn .results [.errorReturn, .results] :=
    (hone .errorReturn).append (hone .results) (by decide) (by decide) (by decide)
  exact ((htaking.append hcall (by decide) (by decide) (by decide)).append hafter (by decide)
    (by decide) (by decide)).append hend (by decide) (by decide) (by decide)

end Call

/-! ## Lines that give something up -/

namespace Statement

theorem text_free (var : String) :
    (free var).text = "unsafe " ++ braced ("gi::free(" ++ var ++ ")") ++ ";" := rfl

theorem text_unregister (handle : String) :
    (unregister handle).text = "ctx.closures.unregister(" ++ handle ++ ");" := rfl

theorem head?_free (var : String) : (free var).text.toList.head? = some 'u' :=
  head?_append (head?_append rfl)

theorem head?_unregister (handle : String) : (unregister handle).text.toList.head? = some 'c' :=
  head?_append (head?_append rfl)

theorem head?_of_givingUp {st : Statement} (h : st.stage = .givingUp) :
    st.text.toList.head? = some 'u' ∨ st.text.toList.head? = some 'c' := by
  cases st with
  | free var => exact .inl (head?_free var)
  | unregister handle => exact .inr (head?_unregister handle)
  | _ => cases h

theorem getLast?_of_givingUp {st : Statement} (h : st.stage = .givingUp) :
    st.text.toList.getLast? = some ';' := by
  cases st with
  | free | unregister => exact getLast?_append rfl
  | _ => cases h

/-- What is given up can be read back from the line. -/
theorem eq_of_text {st st' : Statement} (h : st.stage = .givingUp) (h' : st'.stage = .givingUp)
    (heq : st.text = st'.text) : st = st' := by
  cases st with
  | free var =>
      cases st' with
      | free var' =>
          rw [text_free, text_free, braced, braced] at heq
          simp only [String.append_left_inj, String.append_right_inj] at heq
          rw [heq]
      | unregister handle =>
          have hhead := head?_unregister handle
          rw [← heq, head?_free] at hhead
          cases hhead
      | _ => cases h'
  | unregister handle =>
      cases st' with
      | unregister handle' =>
          rw [text_unregister, text_unregister] at heq
          simp only [String.append_left_inj, String.append_right_inj] at heq
          rw [heq]
      | free var =>
          have hhead := head?_unregister handle
          rw [heq, head?_free] at hhead
          cases hhead
      | _ => cases h'
  | _ => cases h

end Statement

/-- The step is not a line that gives something up. -/
def Elsewhere (s : Step) : Prop := ∀ st : Statement, st.stage = .givingUp → s ≠ .line st.text

theorem elsewhere_opening (t : String) : Elsewhere (.opening t) := fun _ _ heq => by cases heq

theorem elsewhere_closing (t : String) : Elsewhere (.closing t) := fun _ _ heq => by cases heq

theorem elsewhere_of_head (ch : Char) {t : String} (h : t.toList.head? = some ch)
    (hch : ch ≠ 'u' ∧ ch ≠ 'c') : Elsewhere (.line t) := by
  intro st hst heq
  cases heq
  have hhead := Statement.head?_of_givingUp hst
  rw [h, Option.some.injEq, Option.some.injEq] at hhead
  rcases hhead with hhead | hhead
  · exact hch.1 hhead
  · exact hch.2 hhead

theorem elsewhere_of_last {t : String} {ch : Char} (h : t.toList.getLast? = some ch)
    (hch : ch ≠ ';') : Elsewhere (.line t) := by
  intro st hst heq
  cases heq
  have hlast := Statement.getLast?_of_givingUp hst
  rw [h, Option.some.injEq] at hlast
  exact hch hlast

theorem elsewhere_let (rest : String) : Elsewhere (.line ("let " ++ rest)) :=
  elsewhere_of_head 'l' (head?_append rfl) (by decide)

theorem count_eq_zero_of_elsewhere {l : List Step} (h : ∀ s ∈ l, Elsewhere s) {st : Statement}
    (hst : st.stage = .givingUp) : l.count (.line st.text) = 0 :=
  List.count_eq_zero.mpr fun hmem => h _ hmem st hst rfl

/-- No value ends like a statement. -/
theorem SlotReading.exists_last (r : SlotReading) :
    ∃ ch, r.expression.toList.getLast? = some ch ∧ ch ≠ ';' := by
  cases r with
  | array path slot var length =>
      cases length with
      | along | zeroTerminated => exact ⟨'\x7d', getLast?_append rfl, by decide⟩
      | fixed | unknown => exact ⟨')', getLast?_append rfl, by decide⟩
  | cell | bits => exact ⟨')', getLast?_append rfl, by decide⟩
  | text | wrapped | object => exact ⟨'\x7d', getLast?_append (getLast?_append rfl), by decide⟩
  | unmapped => exact ⟨'/', getLast?_append (getLast?_append rfl), by decide⟩

namespace Call

section
variable {e : Env} {f : Function} {site : Site}

theorem head?_outPlace (k : Nat) :
    ((Analysis.of e f site).1.outPlace k).toList.head? = some 'o' := by
  obtain ⟨d, r, h, heq⟩ := Analysis.of_eq e f site
  rw [heq]
  exact head?_append (head?_append (head?_append (Locals.head?_spelled rfl _)))

theorem head?_invokerVar : (Analysis.of e f site).1.invokerVar.toList.head? = some 'i' := by
  obtain ⟨d, r, h, heq⟩ := Analysis.of_eq e f site
  rw [heq]
  exact Locals.head?_spelled rfl _

theorem exists_outPlace_of_fill {place : String} {value : SlotValue}
    (h : .fill place value ∈ (Call.of e f site).before) :
    ∃ k, place = (Analysis.of e f site).1.outPlace k := by
  obtain ⟨p, hp, hst⟩ := List.mem_flatMap.mp h
  have hstatements : .fill place value ∈ p.statements :=
    List.mem_append_left _ (List.mem_append_left _ hst)
  obtain ⟨i, a, copy, ha, hi, -⟩ := accounts_of_statement hp hstatements
  obtain ⟨l, hl⟩ := part_of e site ha
  obtain rfl := Option.some.inj (hl.symm.trans hi)
  have hfilled : place ∈ (Part.of (Call.of e f site).analysis i a l).1.places :=
    List.mem_append_right _ (List.mem_filterMap.mpr ⟨_, hstatements, rfl⟩)
  exact ⟨_, (Part.keepsTo_of.place place hfilled).2⟩

theorem elsewhere_before {st : Statement} (hst : st ∈ (Call.of e f site).before) :
    Elsewhere (.line st.text) := by
  have hstage := stage_before hst
  cases st with
  | copyText var convert source =>
      show Elsewhere (.line ("let " ++ var ++ " = " ++ convert ++ "(" ++ source ++ ");"))
      simp only [String.append_assoc]
      exact elsewhere_let _
  | register handle closure scope =>
      show Elsewhere (.line ("let " ++ handle ++ " = ctx.closures.register(" ++ closure ++ ", " ++
        scope ++ ");"))
      simp only [String.append_assoc]
      exact elsewhere_let _
  | remark => exact elsewhere_of_head '/' (head?_append rfl) (by decide)
  | fill place value =>
      obtain ⟨k, rfl⟩ := exists_outPlace_of_fill hst
      exact elsewhere_of_head 'o' (head?_append (head?_append (head?_append (head?_outPlace k))))
        (by decide)
  | writeBack | free | unregister => cases hstage

theorem elsewhere_after {st : Statement} (hst : st ∈ (Call.of e f site).after)
    (hstage : st.stage ≠ .givingUp) : Elsewhere (.line st.text) := by
  rcases List.mem_append.mp hst with hst | hst
  · have hwriteBack := stage_writeBack hst
    cases st with
    | writeBack var value =>
        exact elsewhere_of_head '*' (head?_append (head?_append (head?_append (head?_append rfl))))
          (by decide)
    | _ => cases hwriteBack
  · exact absurd (stage_givingUp hst) hstage

theorem elsewhere_earlyReturn (c : Call) : Elsewhere (.line c.earlyReturn) := by
  refine elsewhere_of_head 'r' ?_ (by decide)
  unfold earlyReturn
  split
  · rfl
  · exact head?_append (head?_append rfl)

theorem elsewhere_lookup (c : Call) : ∀ s ∈ c.lookupSteps, Elsewhere s := by
  unfold lookupSteps
  dsimp only
  split
  · refine List.forall_mem_singleton.mpr ?_
    simp only [String.append_assoc]
    exact elsewhere_let _
  · simp only [List.forall_mem_cons]
    exact ⟨elsewhere_opening _, elsewhere_of_head 'O' rfl (by decide), elsewhere_opening _,
      elsewhere_of_head 'l' rfl (by decide), elsewhere_earlyReturn c, elsewhere_closing _,
      elsewhere_closing _, List.forall_mem_nil _⟩

theorem elsewhere_block (c : Call) : ∀ s ∈ c.blockSteps, Elsewhere s := by
  unfold blockSteps
  cases c.block? with
  | none => exact List.forall_mem_nil _
  | some block =>
      refine List.forall_mem_singleton.mpr ?_
      exact elsewhere_of_head 'l' (head?_append (head?_append (head?_append (head?_append rfl))))
        (by decide)

theorem elsewhere_slots (c : Call) : ∀ s ∈ c.slotSteps, Elsewhere s := by
  unfold slotSteps
  refine List.forall_mem_append.mpr ⟨?_, ?_⟩
  · split
    · exact List.forall_mem_nil _
    · refine List.forall_mem_singleton.mpr ?_
      exact elsewhere_of_head 'l' (head?_append (head?_append (head?_append (head?_append rfl))))
        (by decide)
  · split
    · exact List.forall_mem_singleton.mpr
        (elsewhere_of_head 'l' (head?_append (head?_append rfl)) (by decide))
    · exact List.forall_mem_nil _

theorem elsewhere_call : ∀ s ∈ (Call.of e f site).stepsOf .call, Elsewhere s := by
  have hinvoker : (Call.of e f site).analysis.invokerVar.toList.head? = some 'i' := head?_invokerVar
  refine List.forall_mem_singleton.mpr fun st hst heq => ?_
  rw [Step.line.injEq] at heq
  cases st with
  | free var =>
      -- Both begin with a brace after `unsafe`, and differ behind it.
      rw [Statement.text_free, braced, braced] at heq
      simp only [String.append_assoc, String.append_right_inj] at heq
      have hhead := congrArg (·.toList.head?) heq
      rw [head?_append hinvoker, head?_append rfl] at hhead
      cases hhead
  | unregister handle =>
      have hhead := Statement.head?_unregister handle
      rw [← heq, head?_append (head?_append rfl)] at hhead
      cases hhead
  | _ => cases hst

theorem elsewhere_error (c : Call) : ∀ s ∈ c.errorSteps, Elsewhere s := by
  unfold errorSteps
  cases c.analysis.errorSlot with
  | none => exact List.forall_mem_nil _
  | some k =>
      simp only [List.forall_mem_cons]
      exact ⟨elsewhere_opening _, elsewhere_of_head 'r' rfl (by decide), elsewhere_closing _,
        List.forall_mem_nil _⟩

theorem elsewhere_done (c : Call) {value : String} {ch : Char}
    (h : value.toList.getLast? = some ch) (hch : ch ≠ ';') :
    Elsewhere (.line (if c.throws then "Ok(" ++ value ++ ")" else value)) := by
  split
  · exact elsewhere_of_head 'O' (head?_append (head?_append rfl)) (by decide)
  · exact elsewhere_of_last h hch

theorem elsewhere_results (c : Call) : ∀ s ∈ c.resultSteps, Elsewhere s := by
  unfold resultSteps
  dsimp only
  split
  · split
    · exact List.forall_mem_singleton.mpr (elsewhere_of_head 'O' rfl (by decide))
    · exact List.forall_mem_nil _
  · next o _ =>
      obtain ⟨ch, hlast, hch⟩ := o.value.exists_last
      exact List.forall_mem_singleton.mpr (elsewhere_done c hlast hch)
  · refine List.forall_mem_append.mpr ⟨List.forall_mem_map.mpr fun r _ => ?_, ?_⟩
    · simp only [String.append_assoc]
      exact elsewhere_let _
    · exact List.forall_mem_singleton.mpr (elsewhere_done c (getLast?_append rfl) (by decide))

theorem elsewhere_remarks (c : Call) : ∀ s ∈ c.remarks, Elsewhere s := by
  unfold remarks
  refine List.forall_mem_append.mpr ⟨List.forall_mem_append.mpr ⟨?_, ?_⟩, ?_⟩
  · exact List.forall_mem_singleton.mpr
      (elsewhere_of_head '/' (head?_append (head?_append rfl)) (by decide))
  · split
    · exact List.forall_mem_nil _
    · refine List.forall_mem_cons.mpr ⟨elsewhere_of_head '/' rfl (by decide), ?_⟩
      exact List.forall_mem_map.mpr fun n _ => elsewhere_of_head '/' (head?_append rfl) (by decide)
  · split
    · exact List.forall_mem_singleton.mpr (elsewhere_of_head '#' rfl (by decide))
    · exact List.forall_mem_nil _

theorem count_framed (c : Call) (body : List Step) {st : Statement} (hst : st.stage = .givingUp) :
    (c.framed body).count (.line st.text) = body.count (.line st.text) := by
  have hremarks := count_eq_zero_of_elsewhere (elsewhere_remarks c) hst
  have hopening : ∀ t, [Step.opening t].count (.line st.text) = 0 := fun t =>
    count_eq_zero_of_elsewhere (List.forall_mem_singleton.mpr (elsewhere_opening t)) hst
  have hclosing : ∀ t, [Step.closing t].count (.line st.text) = 0 := fun t =>
    count_eq_zero_of_elsewhere (List.forall_mem_singleton.mpr (elsewhere_closing t)) hst
  unfold framed
  cases c.analysis.site.container <;>
    simp only [List.count_append, hremarks, hopening, hclosing, Nat.zero_add, Nat.add_zero]

theorem mem_acts {c : Call} {st : Statement} :
    .statement st ∈ c.acts ↔ st ∈ c.before ∨ st ∈ c.after := by
  simp [acts]

theorem exists_part_of_mem_acts {c : Call} {st : Statement} (hst : .statement st ∈ c.acts) :
    ∃ p ∈ c.parts, st ∈ p.statements := by
  rcases mem_acts.mp hst with hst | hst
  · obtain ⟨p, hp, hst⟩ := List.mem_flatMap.mp hst
    exact ⟨p, hp, List.mem_append_left _ (List.mem_append_left _ hst)⟩
  · rcases List.mem_append.mp hst with hst | hst
    · obtain ⟨p, hp, hst⟩ := List.mem_flatMap.mp hst
      exact ⟨p, hp, List.mem_append_left _ (List.mem_append_right _ hst)⟩
    · obtain ⟨p, hp, hst⟩ := List.mem_flatMap.mp hst
      exact ⟨p, hp, List.mem_append_right _ hst⟩

theorem count_acts {st : Statement} (hst : st.stage = .givingUp) :
    (Call.of e f site).acts.count (.statement st) = (Call.of e f site).after.count st := by
  have hbefore : st ∉ (Call.of e f site).before := by
    intro hmem
    have hstage := hst.symm.trans (stage_before hmem)
    cases hstage
  have hstatements : ∀ l : List Statement,
      (l.map Act.statement).count (.statement st) = l.count st := fun l =>
    List.count_map_of_injective l _ (fun _ _ => Act.statement.inj) st
  simp [acts, hstatements, List.count_eq_zero.mpr hbefore]

theorem elsewhere_statement {x : Statement} (hx : .statement x ∈ (Call.of e f site).acts)
    (hstage : x.stage ≠ .givingUp) : Elsewhere (.line x.text) := by
  rcases mem_acts.mp hx with hx | hx
  · exact elsewhere_before hx
  · exact elsewhere_after hx hstage

theorem count_stepsOf {x : Act} (hx : x ∈ (Call.of e f site).acts) {st : Statement}
    (hst : st.stage = .givingUp) :
    ((Call.of e f site).stepsOf x).count (.line st.text) = [x].count (.statement st) := by
  have hother : ∀ x ≠ .statement st, (∀ s ∈ (Call.of e f site).stepsOf x, Elsewhere s) →
      ((Call.of e f site).stepsOf x).count (.line st.text) = [x].count (.statement st) := by
    intro x hne helsewhere
    rw [count_eq_zero_of_elsewhere helsewhere hst, List.count_singleton,
      beq_eq_false_iff_ne.mpr hne]
    rfl
  cases x with
  | lookup => exact hother _ nofun (elsewhere_lookup _)
  | block => exact hother _ nofun (elsewhere_block _)
  | slots => exact hother _ nofun (elsewhere_slots _)
  | call => exact hother _ nofun elsewhere_call
  | errorReturn => exact hother _ nofun (elsewhere_error _)
  | results => exact hother _ nofun (elsewhere_results _)
  | statement x =>
      by_cases hstage : x.stage = .givingUp
      · have htext : (Step.line x.text == .line st.text) = (Act.statement x == .statement st) := by
          rw [Bool.eq_iff_iff, beq_iff_eq, beq_iff_eq, Step.line.injEq, Act.statement.injEq]
          exact ⟨Statement.eq_of_text hstage hst, congrArg Statement.text⟩
        show [Step.line x.text].count (.line st.text) = _
        rw [List.count_singleton, List.count_singleton, htext]
      · refine hother _ ?_ (List.forall_mem_singleton.mpr (elsewhere_statement hx hstage))
        exact fun heq => hstage (by rwa [Act.statement.inj heq])

theorem count_flatMap_acts (c : Call) {st : Statement} : ∀ l : List Act,
    (∀ x ∈ l, (c.stepsOf x).count (.line st.text) = [x].count (.statement st)) →
      (l.flatMap c.stepsOf).count (.line st.text) = l.count (.statement st) := by
  intro l
  induction l with
  | nil => exact fun _ => rfl
  | cons x l ih =>
      intro h
      rw [List.flatMap_cons, List.count_append, h x List.mem_cons_self,
        ih fun y hy => h y (List.mem_cons_of_mem _ hy), ← List.count_append, List.singleton_append]

/-- What is given up has a line each time, and no other line looks like it. -/
theorem count_steps {st : Statement} (hst : st.stage = .givingUp) :
    (Call.of e f site).steps.count (.line st.text) =
      (Call.of e f site).acts.count (.statement st) := by
  rw [steps_eq, count_framed _ _ hst]
  exact count_flatMap_acts _ _ fun x hx => count_stepsOf hx hst

end

/-- A generated function gives up what it takes: a copy of a text that was only lent, and a closure
that was registered for the call. -/
structure Balanced (c : Call) : Prop where
  text : c.steps = c.framed (c.acts.flatMap c.stepsOf)
  ordered : c.acts.Pairwise fun x y => x.stage ≤ y.stage
  /-- No other line looks like one that gives something up. -/
  lines : ∀ st : Statement, st.stage = .givingUp →
    c.steps.count (.line st.text) = c.acts.count (.statement st)
  owned : ∀ st, .statement st ∈ c.acts → ∃ i a p, c.analysis.function.args[i]? = some a ∧
    c.parts[c.position i]? = some p ∧ st ∈ p.statements
  copied : ∀ i a p, c.analysis.function.args[i]? = some a → c.parts[c.position i]? = some p →
    ∀ var convert source, .copyText var convert source ∈ p.statements →
      c.steps.count (.line (Statement.free var).text) = if a.transfer = .nothing then 1 else 0
  registered : ∀ i a p, c.analysis.function.args[i]? = some a → c.parts[c.position i]? = some p →
    ∀ handle closure scope, .register handle closure scope ∈ p.statements →
      scope = Part.scopeName a.scope ∧
        c.steps.count (.line (Statement.unregister handle).text) =
          if a.scope = .call then 1 else 0
  freed : ∀ var, .statement (.free var) ∈ c.acts →
    ∃ convert source, .statement (.copyText var convert source) ∈ c.acts
  unregistered : ∀ handle, .statement (.unregister handle) ∈ c.acts →
    ∃ closure scope, .statement (.register handle closure scope) ∈ c.acts

/-- A generated function is balanced if no name is given out twice. -/
theorem balanced_of (e : Env) (f : Function) (site : Site) (hnames : (names e f site).Nodup) :
    (Call.of e f site).Balanced := by
  have hfunction : (Call.of e f site).analysis.function = f := Analysis.of_function e f site
  constructor
  case text => exact steps_eq _
  case ordered => exact (staged_acts e f site).ordered
  case lines => exact fun st hst => count_steps hst
  case owned =>
    intro st hst
    rw [hfunction]
    obtain ⟨p, hp, hst⟩ := exists_part_of_mem_acts hst
    obtain ⟨i, a, copy, ha, hi, -⟩ := accounts_of_statement hp hst
    exact ⟨i, a, p, ha, hi, hst⟩
  case copied =>
    intro i a p ha hi var convert source hst
    rw [hfunction] at ha
    obtain ⟨q, copy, hq, haccounts⟩ := accounts_at e site ha
    obtain rfl := Option.some.inj (hq.symm.trans hi)
    have hvar : var ∈ q.before.filterMap Statement.copied? :=
      List.mem_filterMap.mpr ⟨_, haccounts.mem_before hst rfl, rfl⟩
    rw [count_steps rfl, count_acts rfl]
    exact count_free hnames ha hi hvar
  case registered =>
    intro i a p ha hi handle closure scope hst
    rw [hfunction] at ha
    obtain ⟨q, copy, hq, haccounts⟩ := accounts_at e site ha
    obtain rfl := Option.some.inj (hq.symm.trans hi)
    obtain ⟨hhandle, hscope⟩ := haccounts.registered _ _ _ (haccounts.mem_before hst rfl)
    rw [count_steps rfl, count_acts rfl]
    exact ⟨hscope, count_unregister ha hhandle⟩
  case freed =>
    intro var hst
    rcases mem_acts.mp hst with hst | hst
    · cases stage_before hst
    · obtain ⟨convert, source, hmem⟩ := mem_before_of_free hst
      exact ⟨convert, source, mem_acts.mpr (.inl hmem)⟩
  case unregistered =>
    intro handle hst
    rcases mem_acts.mp hst with hst | hst
    · cases stage_before hst
    · obtain ⟨closure, scope, hmem⟩ := mem_before_of_unregister hst
      exact ⟨closure, scope, mem_acts.mpr (.inl hmem)⟩

end Call

/-! ## A function that takes three copies and a closure -/

/-- The callee comes to own the third text, and the closure is for the call only. -/
def retitle : Function :=
  { name := "retitle", symbol := "demo_retitle", flags := { throws := true }
    args := [
      { name := "path", type := .filename },
      { name := "title", direction := .inout, type := .utf8 },
      { name := "owner", type := .utf8, transfer := .everything },
      { name := "func", type := applyType, closure := some 4, scope := .call },
      { name := "data", type := .voidPointer }] }

/-- The function, and the callback it takes. -/
def retitling : Scope :=
  { space := { name := "Demo", version := "1.0"
               infos := [.callback applyFunc, .function retitle] } }

theorem balanced_retitle :
    retitling.space.validate = .ok retitling.space ∧
      .function retitle { id := 0, index := 1 } ∈
        (itemsFrom (Env.of retitling) 0 {} retitling.space.infos).1 ∧
          (Call.of (Env.of retitling) retitle { id := 0, index := 1 }).before.filterMap
            Statement.copied? = ["c_path", "c_title", "c_owner"] ∧
              (Call.of (Env.of retitling) retitle { id := 0, index := 1 }).registered =
                ["handle"] ∧
                  (Call.names (Env.of retitling) retitle { id := 0, index := 1 }).Nodup ∧
                    (Call.of (Env.of retitling) retitle { id := 0, index := 1 }).Balanced :=
  ⟨rfl, List.mem_cons_of_mem _ List.mem_cons_self, rfl, rfl, by decide,
    Call.balanced_of _ _ _ (by decide)⟩

end Introspect.Binding
