import Introspect.Binding.Execution
import Introspect.Proofs.Walk

/-!
# Steps of a run

A program is run from the structures its source is written from, so what runs is what a file says:
each function, each trampoline and the release has its block in the generated file.

Then what one statement of a trampoline does to the world, and what a generated function does once
it is known what each part of it does. A statement is left in favour of the next with one variable
more, or with another registry, so a run is followed by rewriting with one lemma for each line.
-/

namespace Introspect.Binding

open Source (Block File)

/-! ## The source of a program -/

/-- All that is run is written in the file. -/
structure Program.WrittenIn (p : Program) (f : File) : Prop where
  calls : ∀ c ∈ p.calls, Block.ofSteps c.steps ∈ f.blocks
  closures : ∀ b ∈ p.closures, Block.ofSteps b.steps ∈ f.blocks
  destroyNotify : Block.ofSteps destroyNotifySteps ∈ f.blocks

theorem Program.writtenIn_of_generate? {s : Scope} {start : Counters} {g : Generated}
    (hg : generate? s start = some g) : (Program.of s start).WrittenIn g.file where
  calls := by
    intro c hc
    obtain ⟨item, hitem, hcall⟩ := List.mem_filterMap.mp hc
    cases item with
    | function f site =>
        cases hcall
        exact ofSteps_mem_blocks hg hitem rfl (steps_ne_nil _)
    | _ => cases hcall
  closures := by
    intro b hb
    obtain ⟨item, hitem, hclosure⟩ := List.mem_filterMap.mp hb
    cases item with
    | callback cb kind =>
        cases kind with
        | closure u =>
            replace hclosure : (ClosureBinding.of s cb u).toOption = some b := hclosure
            have hof : ClosureBinding.of s cb u = .ok b := by
              cases h : ClosureBinding.of s cb u with
              | error fault => rw [h] at hclosure; cases hclosure
              | ok b' => rw [h] at hclosure; cases hclosure; rfl
            have hsteps : (Item.callback cb (.closure u)).steps? (Env.of s) = some b.steps := by
              show Callback.steps? s cb (.closure u) = some b.steps
              rw [Callback.steps?, hof]
            exact ofSteps_mem_blocks hg hitem hsteps (by simp [ClosureBinding.steps])
        | _ => cases hclosure
    | _ => cases hclosure
  destroyNotify := by
    unfold generate? at hg
    obtain ⟨blocks, -, hg⟩ := Option.bind_eq_some_iff.mp hg
    cases hg
    rw [blocks_foldl_push, List.nil_append, List.mem_filter]
    exact ⟨List.mem_append_left _ (by simp), rfl⟩

/-! ## Runs -/

variable {α ν : Type} {host : Host α} {vs : Variables α} {w : World α ν}

namespace Run

variable {β γ : Type} {m : Run α ν β} {k : β → Run α ν γ}

theorem need_some (x : β) : (need (some x) : Run α ν β) = pure x := rfl

theorem bind_of_ok {x : β} {w' : World α ν} (h : m w = .ok (x, w')) : (m >>= k) w = k x w' := by
  show (m w).bind _ = _
  rw [h]
  rfl

theorem bind_of_error {fault : Fault} (h : m w = .error fault) : (m >>= k) w = .error fault := by
  show (m w).bind _ = _
  rw [h]
  rfl

theorem register_of_some {arithmetic : Arithmetic} {f : α} {scope : CallbackScope} {h : Handle}
    {closures : ClosureRegistry α}
    (hr : w.closures.register? arithmetic f scope = some (h, closures)) :
    register arithmetic f scope w = .ok (h, { w with closures }) := by
  rw [register, hr]

theorem register_of_none {arithmetic : Arithmetic} {f : α} {scope : CallbackScope}
    (hr : w.closures.register? arithmetic f scope = none) :
    register arithmetic f scope w = .error .overflow := by
  rw [register, hr]

end Run

/-! ## Trampolines -/

namespace Trampoline

variable {t : Trampoline} {rest : List TrampolineStatement} {h h' : Handle} {c : Closure α}

theorem run_takeHandle {var userData : String} {d : Introspect.Slot}
    (hd : vs.in? .ptr userData = some d) :
    t.run host vs (.takeHandle var userData :: rest) w =
      t.run host ((var, .handle (d.as .handle)) :: vs) rest w := by
  rw [run, hd]
  rfl

theorem run_lookUp {var handle : String} (hh : vs.handle? handle = some h) :
    t.run host vs (.lookUp var handle :: rest) w =
      t.run host ((var, .closure h (w.closures.get h)) :: vs) rest w := by
  rw [run, hh]
  rfl

theorem run_releaseAsync {closure handle : String} (hc : vs.closure? closure = some (h', c))
    (hh : vs.handle? handle = some h) :
    t.run host vs (.releaseAsync closure handle :: rest) w =
      t.run host vs rest
        (if c.scope = .async then { w with closures := (w.closures.unregister h).2 } else w) := by
  rw [run, hc, Run.need_some, pure_bind, hh]
  dsimp only
  rw [Run.need_some, pure_bind]
  split <;> rfl

theorem run_release {userData : String} {d : Introspect.Slot}
    (hd : vs.in? .ptr userData = some d) :
    t.run host vs (.release userData :: rest) w =
      t.run host vs rest
        { w with closures := (w.closures.unregister (d.as .handle)).2 } := by
  rw [run, hd]
  rfl

theorem run_takeFunction {var closure type : String} (hc : vs.closure? closure = some (h, c)) :
    t.run host vs (.takeFunction var closure type :: rest) w =
      match c.callable.filter (host.isOf type) with
      | some f => t.run host ((var, .found h f) :: vs) rest w
      | none => .ok (Result.fallbackWord, w) := by
  rw [run, hc, Run.need_some, pure_bind]
  dsimp only
  cases c.callable.filter (host.isOf type) <;> rfl

theorem run_call {function : String} {args : List SlotReading} {f : α} {xs : List Scalar}
    {y : Option Scalar} {word : UInt64} (hf : vs.found? function = some (h, f))
    (hargs : args.mapM (t.reading? vs) = some xs) (hcall : host.call f xs = some y)
    (hword : t.result.word? y = some word) :
    t.run host vs (.call function args :: rest) w =
      .ok (word, { w with invoked := w.invoked ++ [h] }) := by
  rw [run, hf, Run.need_some, pure_bind]
  dsimp only
  rw [hargs, Run.need_some, pure_bind, Run.invoke, hcall]
  show Run.need (t.result.word? y) _ = _
  rw [hword]
  rfl

end Trampoline

/-! ## Statements around a call -/

namespace Statement

variable {arithmetic : Arithmetic} {handle : String}

theorem run_register {closure scope : String} {f : α} {k : CallbackScope}
    (hf : vs.function? closure = some f) (hk : scopeNamed? scope = some k) :
    (register handle closure scope).run arithmetic vs w =
      (Run.register arithmetic f k >>= fun h => return (handle, .handle h) :: vs) w := by
  rw [run, hf, Run.need_some, pure_bind, hk, Run.need_some, pure_bind]

end Statement

/-! ## Generated functions -/

namespace Program

variable {p : Program} {arithmetic : Arithmetic} {natives : String → Option (NativeRoutine α ν)}
variable {r : Routine} {args : List (Value α)}

/-- A run is made of what comes before the call, the native function and what comes after. -/
theorem run_of_ok {vs' : Variables α} {passed : List NativeArgument} {native : NativeRoutine α ν}
    {word : UInt64} {u v z : World α ν}
    (hbefore : r.before.foldlM (fun vs st => st.run arithmetic vs) (r.params.zip args) w =
      .ok (vs, u))
    (hslots : r.slots.mapM (·.argument? vs) = some passed)
      (hnative : natives r.symbol = some native)
    (hword : native (p.enter host) (r.carriers.zipWith NativeArgument.carried passed) u =
      .ok (word, v))
    (hafter : r.after.foldlM (fun vs st => st.run arithmetic vs) vs v = .ok (vs', z)) :
    p.run arithmetic host natives r args w =
      .ok (r.answer.map fun c => ⟨c, (r.result.deliver word {}).as c⟩, z) := by
  rw [run, Run.bind_of_ok hbefore, hslots, Run.need_some, pure_bind, hnative, Run.need_some,
    pure_bind, Run.bind_of_ok hword, Run.bind_of_ok hafter]
  rfl

end Program

end Introspect.Binding
