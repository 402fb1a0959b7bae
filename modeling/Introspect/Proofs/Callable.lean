import Introspect.Binding.Generate
import Introspect.Proofs.Lines
import Introspect.Proofs.Roles

/-!
# What is bound can be called

Preparing a function for a call fails where its description leaves something open, and a binding
shows a placeholder where it has no mapping. If both went by the same tables, every function bound
without a placeholder could be prepared. They do not: a binding looks open references up by name,
asks nothing of the type of a release, and does not look at a result it does not read. `Callable`
says what these three leave to the description, and is exactly what preparation still asks for.

Placeholders are seen in the text of a block only. A placeholder among the results always shows. One
among the slots shows when no comment opens in the slots before it, and can be swallowed otherwise,
together with a directive that a name has opened.
-/

namespace Introspect.Binding

open Naming (Locals)
open Source (Plain Step Block isUnfinished strip marker)

/-! ## Placeholders in slots -/

/-- What a slot shows as missing. -/
def Slot.missing? : Slot → Option String
  | .value (.unmapped what) => some what
  | _ => none

/-- A slot with a placeholder starts with a plain text and its marker. -/
theorem text_of_missing {slot : Slot} {what : String} (h : slot.missing? = some what) :
    ∃ rest, slot.text.toList = "gi::Argument::ZERO".toList ++ (marker ++ rest) := by
  unfold Slot.missing? at h
  split at h
  · cases h
    refine ⟨what.toList ++ "*/".toList, ?_⟩
    show ("gi::Argument::ZERO" ++ ("/*TODO " ++ what ++ "*/")).toList = _
    rw [String.toList_append, String.toList_append, String.toList_append, List.append_assoc]
    rfl
  · cases h

/-- The first placeholder among slots that are plain otherwise. -/
theorem exists_marker_of_missing {slots : List Slot}
    (hplain : ∀ slot ∈ slots, slot.missing? = none → Plain slot.text.toList) :
    ∀ {slot : Slot}, slot ∈ slots → slot.missing? ≠ none →
      ∃ xs rest, (", ".intercalate (slots.map Slot.text)).toList = xs ++ (marker ++ rest) ∧
        Plain xs := by
  induction slots with
  | nil => intro slot h; cases h
  | cons first others ih =>
      intro slot hslot hmissing
      rw [List.forall_mem_cons] at hplain
      -- Whatever follows the first slot, the text starts with that slot.
      have hstart : ∃ rest, (", ".intercalate ((first :: others).map Slot.text)).toList =
          first.text.toList ++ rest := by
        cases others with
        | nil => exact ⟨[], by simp⟩
        | cons second others =>
            rw [List.map_cons, List.map_cons, String.intercalate_cons_cons, String.toList_append,
              String.toList_append, List.append_assoc]
            exact ⟨_, rfl⟩
      cases hfirst : first.missing? with
      | some what =>
          obtain ⟨rest, hrest⟩ := hstart
          obtain ⟨rest', htext⟩ := text_of_missing hfirst
          refine ⟨_, rest' ++ rest, ?_, show Plain "gi::Argument::ZERO".toList by decide⟩
          rw [hrest, htext, List.append_assoc, List.append_assoc]
      | none =>
          have hothers : slot ∈ others := by
            rcases List.mem_cons.mp hslot with rfl | h
            · exact absurd hfirst hmissing
            · exact h
          obtain ⟨xs, rest, htext, hxs⟩ := ih hplain.2 hothers hmissing
          obtain ⟨second, others, rfl⟩ := List.exists_cons_of_ne_nil (List.ne_nil_of_mem hothers)
          refine ⟨first.text.toList ++ (", ".toList ++ xs), rest, ?_, ?_⟩
          · rw [List.map_cons, List.map_cons, String.intercalate_cons_cons, ← List.map_cons,
              String.toList_append, String.toList_append, htext]
            simp only [List.append_assoc]
          · exact (hplain.1 hfirst).append (.append_of_no_slash (by decide) hxs) (by simp)

/-! ## Placeholders in blocks -/

theorem mem_steps_of_callSteps {c : Call} {st : Step} (h : st ∈ c.callSteps) : st ∈ c.steps := by
  unfold Call.steps
  dsimp only
  split <;> simp [h]

theorem mem_steps_of_resultSteps {c : Call} {st : Step} (h : st ∈ c.resultSteps) :
    st ∈ c.steps := by
  unfold Call.steps
  dsimp only
  split <;> simp [h]

theorem args_mem_callSteps {c : Call} (h : c.slots ≠ []) :
    .line ("let mut " ++ c.analysis.argsVar ++ " = [" ++
      ", ".intercalate (c.slots.map Slot.text) ++ "];") ∈ c.callSteps := by
  have hparts : c.parts.isEmpty = false := by
    rw [List.isEmpty_eq_false_iff]
    intro hnil
    exact h (by rw [Call.slots, hnil]; rfl)
  unfold Call.callSteps
  dsimp only
  rw [hparts]
  simp

/-- A placeholder among slots that are plain otherwise shows in the block. -/
theorem containsTodo_of_missing {c : Call} {slot : Slot} (hvar : '/' ∉ c.analysis.argsVar.toList)
    (hplain : ∀ slot ∈ c.slots, slot.missing? = none → Plain slot.text.toList)
    (hslot : slot ∈ c.slots) (hmissing : slot.missing? ≠ none) :
    (Block.ofSteps c.steps).containsTodo = true := by
  obtain ⟨xs, rest, htext, hxs⟩ := exists_marker_of_missing hplain hslot hmissing
  refine Block.containsTodo_of_mem
    (mem_steps_of_callSteps (args_mem_callSteps (List.ne_nil_of_mem hslot))) ?_
  have hline : ("let mut " ++ c.analysis.argsVar ++ " = [" ++
      ", ".intercalate (c.slots.map Slot.text) ++ "];").toList =
        (("let mut " ++ c.analysis.argsVar ++ " = [").toList ++ xs) ++
          (marker ++ (rest ++ "];".toList)) := by
    rw [String.toList_append, String.toList_append, htext]
    simp only [List.append_assoc]
  refine Source.isUnfinished_of_marker hline (.append_of_no_slash ?_ hxs)
  simp only [String.toList_append, List.mem_append, not_or]
  exact ⟨⟨by decide, hvar⟩, by decide⟩

/-- A placeholder for the result shows in the block, whatever is in the names. -/
theorem containsTodo_of_result {c : Call} {var what : String} {o : Output} (hvar : '/' ∉ var.toList)
    (hresult : c.result = some (var, o)) (ho : o.value = .unmapped what) :
    (Block.ofSteps c.steps).containsTodo = true := by
  have hstep : ∃ st ∈ c.resultSteps, ∃ before after : String, '/' ∉ before.toList ∧
      st.text = before ++ o.value.expression ++ after := by
    unfold Call.resultSteps Call.results
    rw [hresult]
    dsimp only
    cases hothers : c.parts.filterMap (·.result) with
    | nil =>
        refine ⟨_, List.mem_singleton_self _, if c.throws then "Ok(" else "",
          if c.throws then ")" else "", ?_, ?_⟩
        · split <;> decide
        · split
          · rfl
          · show _ = "" ++ _ ++ ""
            rw [String.empty_append, String.append_empty]
            rfl
    | cons other others =>
        refine ⟨_, List.mem_append_left _ List.mem_cons_self, "let " ++ var ++ " = ", ";", ?_, rfl⟩
        simp only [String.toList_append, List.mem_append, not_or]
        exact ⟨⟨by decide, hvar⟩, by decide⟩
  obtain ⟨st, hst, before, after, hbefore, htext⟩ := hstep
  refine Block.containsTodo_of_mem (mem_steps_of_resultSteps hst) ?_
  have hline : st.text.toList = (before ++ todoType).toList ++ (todoMark what ++ after).toList := by
    rw [htext, ho, SlotReading.expression]
    simp only [String.toList_append, List.append_assoc]
  refine Source.isUnfinished_of_beginning hline ?_ ?_ ?_
  · rw [String.toList_append]
    exact .append_of_no_slash hbefore (by decide)
  · rw [todoMark, String.toList_append, String.toList_append, String.toList_append]
    simp
  · refine Source.isUnfinished_of_infix (a := todoType) ?_ (by decide)
    rw [String.toList_append]
    exact (List.suffix_append _ _).isInfix

/-! ## Calls -/

/-- What a binding leaves for preparation to ask for. -/
structure Callable (e : Env) (f : Function) (site : Site) : Prop where
  /-- No input is a reference by value that was left open. -/
  input : ∀ a ∈ f.args, a.direction = .in → ¬ a.type.IsOpen
  /-- Nor is the result. -/
  result : ¬ f.returns.IsOpen
  /-- The release of a callback can be passed. -/
  release : ∀ i a, f.args[i]? = some a → a.direction = .in →
    (Analysis.of e f site).1.role i a = .release → ∃ k, Carrier.of a.type = .ok k
  /-- So can the result that is not read, or is read as the container it constructs. -/
  unread : f.skipReturn = true ∨ (f.flags.isConstructor = true ∧ site.container.isSome = true) →
    ∃ k, Carrier.of f.returns = .ok k
  /-- So can an input whose placeholder the block does not show. -/
  hidden : ∀ i a, f.args[i]? = some a → a.direction = .in →
    (∃ slot, (Call.of e f site).slots[(Call.of e f site).position i]? = some slot ∧
      slot.missing?.isSome = true) → ∃ k, Carrier.of a.type = .ok k

theorem resultOf_eq_some {an : Analysis} (locals : Locals) (hresult : an.hasResult = true)
    (hconstructed : an.constructed? = none) :
    ∃ var, '/' ∉ var.toList ∧ Call.resultOf an locals = some (var,
      (Output.of an.env.scope an.function.returns an.resultVar
        (an.arrayLength locals an.function.returns)
        ⟨an.function.returnTransfer, an.function.mayReturnNull, false⟩ locals).1) := by
  unfold Call.resultOf
  dsimp only
  rw [hresult, hconstructed]
  exact ⟨_, Locals.no_slash_alloc (by decide), rfl⟩

theorem carrier_of_isVoid {s : Scope} {t : NativeType} (h : t.isVoid = true) :
    ∃ k, Carrier.of (s.resolve t) = .ok k := by
  rw [NativeType.isVoid, Bool.and_eq_true, decide_eq_true_eq, Bool.not_eq_true'] at h
  refine ⟨.void, ?_⟩
  unfold Carrier.of
  rw [s.isPointer_resolve, s.tag_resolve, h.1, h.2]
  rfl

section
variable {e : Env} {f : Function} {site : Site}

/-- A result that is read has a carrier once references are looked up, or shows as missing. -/
theorem carrier_of_result (hskip : f.skipReturn = false)
    (hconstructed : ¬ (f.flags.isConstructor = true ∧ site.container.isSome = true)) :
    (∃ k, Carrier.of (e.scope.resolve f.returns) = .ok k) ∨
      ∃ var o what, (Call.of e f site).result = some (var, o) ∧ '/' ∉ var.toList ∧
        o.value = .unmapped what := by
  have hnone : (Analysis.of e f site).1.constructed? = none := by
    rw [Analysis.constructed?, Analysis.of_function, Analysis.of_site]
    split
    · next hc =>
        cases hcontainer : site.container with
        | none => rfl
        | some c => exact absurd ⟨hc, by rw [hcontainer]; rfl⟩ hconstructed
    · rfl
  cases hvoid : f.returns.isVoid with
  | true => exact .inl (carrier_of_isVoid hvoid)
  | false =>
      have hread : (Analysis.of e f site).1.hasResult = true := by
        rw [Analysis.hasResult, Analysis.of_function, hskip, hvoid]
        rfl
      obtain ⟨var, hvar, hresult⟩ := resultOf_eq_some
        (Part.allFrom (Analysis.of e f site).1 0 (Analysis.of e f site).2 f.args).2 hread hnone
      rw [Analysis.of_env, Analysis.of_function] at hresult
      generalize houtput : (Output.of e.scope f.returns _ _ _ _).1 = o at hresult
      cases hvalue : o.value.cell? with
      | some c =>
          obtain ⟨k, hk, -⟩ := Output.represents_of (houtput ▸ hvalue)
          exact .inl ⟨k, hk⟩
      | none =>
          refine .inr ⟨var, o, ?_⟩
          cases hreading : o.value with
          | unmapped what => exact ⟨what, hresult, hvar, rfl⟩
          | _ => rw [hreading] at hvalue; cases hvalue

theorem not_isOpen_of_carrier (s : Scope) {t : NativeType} (h : ∃ k, Carrier.of t = .ok k) :
    ¬ t.IsOpen := by
  obtain ⟨k, hk⟩ := h
  exact (Carrier.of_iff_not_isOpen (s := s) (Carrier.of_resolve hk)).mp ⟨k, hk⟩

/-- What preparation asks for, it asks for wherever the binding leaves something to it. -/
theorem callable_of_carriers
    (hargs : ∀ a ∈ f.args, a.direction = .in → ∃ k, Carrier.of a.type = .ok k)
    (hreturns : ∃ k, Carrier.of f.returns = .ok k) : Callable e f site where
  input a ha hin := not_isOpen_of_carrier e.scope (hargs a ha hin)
  result := not_isOpen_of_carrier e.scope hreturns
  release _ a ha hin _ := hargs a (List.mem_of_getElem? ha) hin
  unread _ := hreturns
  hidden _ a ha hin _ := hargs a (List.mem_of_getElem? ha) hin

/-- An input that the binding passes has a carrier, if what is left to preparation has. -/
theorem Callable.carrier_of_arg (h : Callable e f site) {a : Argument} (ha : a ∈ f.args)
    (hin : a.direction = .in) : ∃ k, Carrier.of a.type = .ok k := by
  obtain ⟨i, hi⟩ := List.mem_iff_getElem?.mp ha
  obtain ⟨l, hpart⟩ := Call.part_of e site hi
  rcases carrier_of_input e site hi hin l with hrole | ⟨what, hslot⟩ | ⟨k, hk⟩
  · exact h.release i a hi hin hrole
  · refine h.hidden i a hi hin ⟨.value (.unmapped what), ?_, rfl⟩
    rw [Call.slots, List.getElem?_map, hpart, Option.map_some, Call.analysis_of, hslot]
  · exact (Carrier.of_iff_not_isOpen hk).mpr (h.input a ha hin)

theorem Callable.carrier_of_returns (h : Callable e f site)
    (hdone : (functionBlock e f site).containsTodo = false) :
    ∃ k, Carrier.of f.returns = .ok k := by
  by_cases hunread : f.skipReturn = true ∨
      (f.flags.isConstructor = true ∧ site.container.isSome = true)
  · exact h.unread hunread
  · rw [not_or, Bool.not_eq_true] at hunread
    rcases carrier_of_result (e := e) hunread.1 hunread.2 with
    ⟨k, hk⟩ | ⟨var, o, what, hr, hvar, ho⟩
    · exact (Carrier.of_iff_not_isOpen hk).mpr h.result
    · rw [functionBlock, containsTodo_of_result hvar hr ho] at hdone
      cases hdone

/-- A function whose block shows no placeholder is prepared at every address but the null pointer
exactly when what its binding leaves open has a carrier. Where the slots are plain but for their
placeholders, none of them is one. -/
theorem exists_prepare_iff_callable {address : Address} (haddress : address ≠ 0)
    (hdone : (functionBlock e f site).containsTodo = false) :
    ((∃ iv, Invoker.prepare f address = .ok iv) ↔ Callable e f site) ∧
      ((∀ slot ∈ (Call.of e f site).slots, slot.missing? = none → Plain slot.text.toList) →
        ∀ slot ∈ (Call.of e f site).slots, slot.missing? = none) := by
  constructor
  · rw [Invoker.exists_prepare_iff]
    constructor
    · rintro ⟨-, hargs, hreturns⟩
      exact callable_of_carriers hargs hreturns
    · intro h
      exact ⟨haddress, fun a ha hin => h.carrier_of_arg ha hin, h.carrier_of_returns hdone⟩
  · intro hplain slot hslot
    have hvar : '/' ∉ (Call.of e f site).analysis.argsVar.toList := by
      obtain ⟨d, r, hs, heq⟩ := Analysis.of_eq e f site
      rw [Call.analysis_of, heq]
      exact Locals.no_slash_alloc (by decide)
    refine Decidable.byContradiction fun hmissing => ?_
    rw [functionBlock, containsTodo_of_missing hvar hplain hslot hmissing] at hdone
    cases hdone

end

/-! ## A reference left open -/

/-- A function of one member of an enumeration, by value. -/
def turn (kind : ReferenceKind) : Function :=
  { name := "turn", symbol := "demo_turn"
    args := [{ name := "to"
               type := .plain { tag := .interface, reference := some ⟨kind, "Way", none⟩ } }] }

/-- The namespace of the function and its enumeration. -/
def turning (kind : ReferenceKind) : Scope :=
  { space := { name := "Demo", version := "1.0"
               infos := [.enum { name := "Way" }, .function (turn kind)] } }

theorem containsTodo_turn :
    (functionBlock (Env.of (turning .unresolved)) (turn .unresolved)
      { id := 0, index := 1 }).containsTodo = false := by
  decide +kernel

/-- A reference left open is bound like the reference it is looked up as. -/
theorem functionBlock_turn :
    functionBlock (Env.of (turning .enum)) (turn .enum) { id := 0, index := 1 } =
      functionBlock (Env.of (turning .unresolved)) (turn .unresolved) { id := 0, index := 1 } :=
  rfl

/-- With its kind given, the function can be called. -/
theorem callable_turn :
    Callable (Env.of (turning .enum)) (turn .enum) { id := 0, index := 1 } :=
  (exists_prepare_iff_callable (show (64 : Address) ≠ 0 by decide)
    (functionBlock_turn ▸ containsTodo_turn)).1.mp ⟨_, rfl⟩

/-- With its kind left open, it is bound without a placeholder and prepared nowhere. -/
theorem bound_not_prepared :
    (turning .unresolved).space.validate = .ok (turning .unresolved).space ∧
      (generate? (turning .unresolved) {}).isSome = true ∧
        .function (turn .unresolved) { id := 0, index := 1 } ∈
          (itemsFrom (Env.of (turning .unresolved)) 0 {} (turning .unresolved).space.infos).1 ∧
            (functionBlock (Env.of (turning .unresolved)) (turn .unresolved)
              { id := 0, index := 1 }).containsTodo = false ∧
                ∀ address, Invoker.prepare (turn .unresolved) address =
                  .error (.layout "demo_turn" (.byValue .unresolved "Way")) :=
  ⟨rfl, rfl, List.mem_cons_of_mem _ List.mem_cons_self, containsTodo_turn, fun _ => rfl⟩

end Introspect.Binding
