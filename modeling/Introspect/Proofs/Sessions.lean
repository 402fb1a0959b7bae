import Introspect.Demo.Session
import Introspect.Proofs.Execution
import Introspect.Proofs.Registry
import Introspect.Proofs.Slots

/-!
# What the calls of a session come to

The generated functions of the demonstration library, their one trampoline and the release, run as
they are written. A function that takes a closure registers it, so that the trampoline finds it
while the call lasts; through a handle native code has kept the trampoline finds what is registered
there by then, or gives up with a zero.
-/

namespace Introspect.Demo

open Binding

/-! ## What is written -/

/-- The routine of a generated function. -/
def routine? (name : String) : Option Routine := (program.function? name).bind (·.routine?)

/-- A closure is given up after the call it was for. -/
theorem routine_applyTwice : routine? "apply_twice" = some
    { params := ["func", "x"]
      before := [.register "handle" "func" "gi::Scope::Call"]
      slots := [.trampoline "ApplyFunc", .handle "handle", .value (.make .i32 "x")]
      symbol := "demo_apply_twice"
      carriers := [.pointer, .pointer, .i32]
      result := .i32
      after := [.unregister "handle"]
      answer := some .i32 } := by decide +kernel

theorem routine_defer : routine? "defer" = some
    { params := ["func"]
      before := [.register "handle" "func" "gi::Scope::Async"]
      slots := [.trampoline "ApplyFunc", .handle "handle"]
      symbol := "demo_defer"
      carriers := [.pointer, .pointer]
      result := .void
      after := []
      answer := none } := by decide +kernel

/-- A closure is not given up after the call that hands over its release. -/
theorem routine_watch : routine? "watch" = some
    { params := ["func", "x"]
      before := [.register "handle" "func" "gi::Scope::Notified"]
      slots := [.trampoline "ApplyFunc", .handle "handle", .destroyNotify, .value (.make .i32 "x")]
      symbol := "demo_watch"
      carriers := [.pointer, .pointer, .pointer, .i32]
      result := .i32
      after := []
      answer := some .i32 } := by decide +kernel

/-- A function that takes a number and no closure. -/
def plainRoutine (symbol : String) : Routine where
  params := ["x"]
  before := []
  slots := [.value (.make .i32 "x")]
  symbol := symbol
  carriers := [.i32]
  result := .i32
  after := []
  answer := some .i32

theorem routine_runDeferred : routine? "run_deferred" =
    some (plainRoutine "demo_run_deferred") := by
  decide +kernel

theorem routine_pokeWatched : routine? "poke_watched" =
    some (plainRoutine "demo_poke_watched") := by
  decide +kernel

/-- The signature of the one closure type. -/
def applyTrampoline : Trampoline :=
  ⟨[⟨"value", .i32⟩, ⟨"user_data", .ptr⟩], ⟨some .i32, "i32", .same⟩⟩

/-- A closure that is called only once is released before it is called. -/
def applyBody : List TrampolineStatement :=
  [.takeHandle "handle" "user_data",
    .lookUp "closure" "handle",
    .releaseAsync "closure" "handle",
    .takeFunction "f" "closure" "ApplyFunc",
    .call "f" [.cell "gi::Argument::from_i32(value)" .i32]]

theorem closure_applyFunc :
    (program.closure? "ApplyFunc").map (fun b => (b.trampoline, b.body)) =
      some (applyTrampoline, applyBody) := by decide +kernel

/-! ## Numbers -/

theorem asNumber_number (x : Int32) : asNumber (number x) = x := Slot.as_of .i32 x

/-- A number is widened on its way to native code, and its result on the way back. -/
theorem asNumber_widen (x : Int32) : asNumber (Carrier.widen .i32 (number x)) = x := by
  refine Eq.trans ?_ (asNumber_number x)
  show (number x).toUInt32.toInt32.toInt64.toUInt64.toUInt32.toInt32 = (number x).toUInt32.toInt32
  generalize (number x).toUInt32.toInt32 = y
  apply Int32.toBitVec.inj
  show (y.toBitVec.signExtend 64).setWidth 32 = y.toBitVec
  ext i hi
  rw [BitVec.getElem_setWidth, BitVec.getLsbD_signExtend, if_pos hi, BitVec.getLsbD_eq_getElem,
    decide_eq_true (by omega), Bool.true_and]

/-! ## Calling back -/

/-- A call of the closure that has a handle. -/
def Pending.of (h : Handle) : Pending := ⟨.trampoline "ApplyFunc", h⟩

theorem Pending.of_inj {h h' : Handle} (heq : Pending.of h = .of h') : h = h' :=
  congrArg Pending.data heq

section
variable {s : Session} {h : Handle} {f : Int32 → Int32}

/-- What the trampoline does with what it finds under a handle. -/
theorem enter_applyFunc (x : Int32) :
    program.enter host (.trampoline "ApplyFunc") [number x, h] s =
      let closures :=
        if (s.closures.get h).scope = .async then (s.closures.unregister h).2 else s.closures
      .ok (match (s.closures.get h).callable with
        | some f => (number (f x), { s with closures, invoked := s.invoked ++ [h] })
        | none => (0, { s with closures })) := by
  obtain ⟨b, hb, hbody⟩ := Option.map_eq_some_iff.mp closure_applyFunc
  obtain ⟨htrampoline, hbody⟩ := Prod.mk.inj hbody
  rw [Program.enter, hb, Run.need_some, pure_bind, htrampoline, hbody, applyBody,
    Trampoline.run_takeHandle (d := .of .ptr h) (by rfl),
    Trampoline.run_lookUp (h := h) (by rfl),
    Trampoline.run_releaseAsync (h := h) (by rfl) (by rfl),
    Trampoline.run_takeFunction (h := h) (by rfl)]
  cases hc : (s.closures.get h).callable with
  | none => dsimp only [Option.filter_none]; split <;> rfl
  | some f =>
      have hargs : [SlotReading.cell "gi::Argument::from_i32(value)" .i32].mapM
          (applyTrampoline.reading?
            (("f", .found h f) :: ("closure", .closure h (s.closures.get h)) ::
              ("handle", .handle h) :: applyTrampoline.bind [number x, h])) = some [⟨.i32, x⟩] := by
        show some [Scalar.mk .i32 (asNumber (number (asNumber (number x))))] = _
        rw [asNumber_number, asNumber_number]
      refine (Trampoline.run_call (h := h) (f := f) (by rfl) hargs (by rfl) (by rfl)).trans ?_
      split <;> rfl

theorem callBack_of_lookup {scope : CallbackScope}
    (hl : s.closures.live.lookup h = some ⟨some f, scope⟩) (x : Int32) :
    callBack (program.enter host) (.trampoline "ApplyFunc") h x s =
      .ok (f x,
        { s with
          closures := if scope = .async then (s.closures.unregister h).2 else s.closures
          invoked := s.invoked ++ [h] }) := by
  have hget : s.closures.get h = ⟨some f, scope⟩ := by
    rw [ClosureRegistry.get_eq, hl, Option.getD_some]
  have henter := enter_applyFunc (s := s) (h := h) x
  rw [hget] at henter
  rw [callBack, Run.bind_of_ok henter, asNumber_number]
  rfl

/-- While a call lasts, its closure is called as often as native code likes. -/
theorem callBack_of_standing {k : CallbackScope}
    (hl : s.closures.live.lookup h = some ⟨some f, k⟩) (hk : k ≠ .async) (x : Int32) :
    callBack (program.enter host) (.trampoline "ApplyFunc") h x s =
      .ok (f x, { s with invoked := s.invoked ++ [h] }) := by
  rw [callBack_of_lookup hl, if_neg hk]

/-- Nothing is behind the handle any more. -/
theorem callBack_of_none (hl : s.closures.live.lookup h = none) (x : Int32) :
    callBack (program.enter host) (.trampoline "ApplyFunc") h x s = .ok (0, s) := by
  have hget : s.closures.get h = {} := by rw [ClosureRegistry.get_eq, hl, Option.getD_none]
  have henter := enter_applyFunc (s := s) (h := h) x
  rw [hget] at henter
  rw [callBack, Run.bind_of_ok henter]
  rfl

/-- The release forgets the handle in its user data. -/
theorem enter_destroyNotify :
    program.enter host .destroyNotify [h] s =
      .ok (0, { s with closures := (s.closures.unregister h).2 }) := by
  rw [Program.enter, destroyNotifyBody, Trampoline.run_release (d := .of .ptr h) (by rfl)]
  rfl

end

/-! ## Calls -/

namespace Session

variable {arithmetic : Arithmetic} {s s' : Session} {f : Int32 → Int32} {x y : Int32}

theorem call_eq {name : String} {r : Routine} (hr : routine? name = some r)
    (args : List (Value (Int32 → Int32))) :
    program.call arithmetic host natives name args = program.run arithmetic host natives r
      args := by
  rw [Program.call]
  show Run.need (routine? name) >>= _ = _
  rw [hr]
  rfl

theorem ask_of_run {name : String} {r : Routine} {args : List (Value (Int32 → Int32))}
    (hr : routine? name = some r)
    (hrun : program.run arithmetic host natives r args s = .ok (some ⟨.i32, y⟩, s')) :
    ask arithmetic name args s = .ok (y, s') := by
  rw [ask, call_eq hr, Run.bind_of_ok hrun]
  rfl

/-- The answer of a native function that returns a number. -/
theorem delivered (y : Int32) :
    (some Cell.i32).map (fun c => (⟨c, (Carrier.deliver .i32 (number y) {}).as c⟩ : Scalar)) =
      some ⟨.i32, y⟩ := by
  show some (Scalar.mk .i32 (asNumber (Carrier.widen .i32 (number y)))) = _
  rw [asNumber_widen]

/-- What a function that takes a number answers is what native code makes of the number. -/
theorem run_plainRoutine {symbol : String} {native : NativeRoutine (Int32 → Int32) Kept}
    (hnative : natives symbol = some native)
    (hword : native (program.enter host) [.word (Carrier.widen .i32 (number x))] s =
      .ok (number y, s')) :
    program.run arithmetic host natives (plainRoutine symbol) [.scalar ⟨.i32, x⟩] s =
      .ok (some ⟨.i32, y⟩, s') := by
  rw [Program.run_of_ok (u := s) (v := s') (z := s') (by rfl) (by rfl) hnative hword (by rfl)]
  exact congrArg (fun answer => Except.ok (answer, s')) (delivered y)

theorem runDeferred_of_ok
    (h : callKept (program.enter host) s.native.deferred x s = .ok (y, s')) :
    runDeferred arithmetic x s = .ok (y, s') := by
  refine ask_of_run routine_runDeferred (run_plainRoutine (by rfl) ?_)
  rw [runDeferredRoutine, Run.bind_of_ok (x := s) (by rfl), asNumber_widen, Run.bind_of_ok h]
  rfl

theorem pokeWatched_of_ok
    (h : callKept (program.enter host) s.native.watched x s = .ok (y, s')) :
    pokeWatched arithmetic x s = .ok (y, s') := by
  refine ask_of_run routine_pokeWatched (run_plainRoutine (by rfl) ?_)
  rw [pokeWatchedRoutine, Run.bind_of_ok (x := s) (by rfl), asNumber_widen, Run.bind_of_ok h]
  rfl

/-! ### Calls that register a closure -/

/-- The handle that is given out next. -/
def next (s : Session) : Handle := s.closures.last + 1

/-- What is registered under other handles. -/
def others (s : Session) : List (Handle × Closure (Int32 → Int32)) :=
  s.closures.live.filter (·.1 ≠ s.next)

/-- The session in which a closure has been registered. -/
def registered (s : Session) (f : Int32 → Int32) (scope : CallbackScope) : Session :=
  { s with closures := ⟨s.next, (s.next, ⟨some f, scope⟩) :: s.others⟩ }

/-- A closure is registered before the call, where handles go on being counted. -/
theorem before_of_counts (hs : arithmetic.Counts (s.closures.last.toNat + 1)) {name : String}
    {scope : CallbackScope} (hscope : scopeNamed? name = some scope)
    {vs : Variables (Int32 → Int32)} (hf : vs.function? "func" = some f) :
    [Statement.register "handle" "func" name].foldlM (fun vs st => st.run arithmetic vs) vs s =
      .ok (("handle", .handle s.next) :: vs, s.registered f scope) := by
  simp only [List.foldlM_cons, List.foldlM_nil, bind_pure]
  rw [Statement.run_register hf hscope,
    Run.bind_of_ok (Run.register_of_some (ClosureRegistry.register?_of_counts hs f scope))]
  rfl

theorem before_of_not_counts (hs : ¬ arithmetic.Counts (s.closures.last.toNat + 1)) {name : String}
    {scope : CallbackScope} (hscope : scopeNamed? name = some scope)
    {vs : Variables (Int32 → Int32)} (hf : vs.function? "func" = some f) :
    [Statement.register "handle" "func" name].foldlM (fun vs st => st.run arithmetic vs) vs s =
      .error .overflow := by
  simp only [List.foldlM_cons, List.foldlM_nil, bind_pure]
  rw [Statement.run_register hf hscope,
    Run.bind_of_error (Run.register_of_none (ClosureRegistry.register?_of_not_counts hs f scope))]

theorem applyTwice_of_counts (hs : arithmetic.Counts (s.closures.last.toNat + 1)) :
    applyTwice arithmetic f x s = .ok (f (f x),
      { s with
        closures := ⟨s.next, s.others⟩
        invoked := s.invoked ++ [s.next] ++ [s.next] }) := by
  have hcall (invoked : List Handle) (x : Int32) := callBack_of_standing
    (s := { s.registered f .call with invoked }) (k := .call) List.lookup_cons_self (by decide) x
  have hnative : applyTwiceRoutine (program.enter host)
      [.entrance (.trampoline "ApplyFunc"), .word s.next, .word (Carrier.widen .i32 (number x))]
      (s.registered f .call) = .ok (number (f (f x)),
        { s.registered f .call with invoked := s.invoked ++ [s.next] ++ [s.next] }) := by
    rw [applyTwiceRoutine, asNumber_widen]
    refine (Run.bind_of_ok (hcall s.invoked x)).trans ?_
    exact Run.bind_of_ok (hcall (s.invoked ++ [s.next]) (f x))
  refine ask_of_run routine_applyTwice ?_
  rw [Program.run_of_ok (before_of_counts hs (by rfl) (by rfl)) (by rfl) (by rfl) hnative (by rfl),
    delivered]
  exact congrArg (fun closures =>
    Except.ok (some (Scalar.mk .i32 (f (f x))), World.mk closures _ _))
    (s.closures.unregister_register f .call)

theorem watch_of_counts (hs : arithmetic.Counts (s.closures.last.toNat + 1)) :
    watch arithmetic f x s = .ok (f x,
      { closures := ⟨s.next, s.others⟩
        invoked := s.invoked ++ [s.next]
        native := { s.native with watched := some (.of s.next) } }) := by
  have hcall := callBack_of_standing
    (s := { s.registered f .notified with native.watched := some (.of s.next) })
    (k := .notified) List.lookup_cons_self (by decide) x
  have hnative : watchRoutine (program.enter host)
      [.entrance (.trampoline "ApplyFunc"), .word s.next, .entrance .destroyNotify,
        .word (Carrier.widen .i32 (number x))]
      (s.registered f .notified) = .ok (number (f x),
        { closures := ((s.registered f .notified).closures.unregister s.next).2
          invoked := s.invoked ++ [s.next]
          native := { s.native with watched := some (.of s.next) } }) := by
    rw [watchRoutine, asNumber_widen, Run.bind_of_ok (x := ()) (by rfl)]
    refine (Run.bind_of_ok hcall).trans ?_
    exact Run.bind_of_ok enter_destroyNotify
  refine ask_of_run routine_watch ?_
  rw [Program.run_of_ok (before_of_counts hs (by rfl) (by rfl)) (by rfl) (by rfl) hnative (by rfl),
    delivered]
  exact congrArg (fun closures => Except.ok (some (Scalar.mk .i32 (f x)), World.mk closures _ _))
    (s.closures.unregister_register f .notified)

theorem defer_of_counts (hs : arithmetic.Counts (s.closures.last.toNat + 1)) :
    defer arithmetic f s = .ok ((), { s.registered f .async with
      native := { s.native with deferred := some (.of s.next) } }) := by
  rw [defer, call_eq routine_defer]
  rw [Run.bind_of_ok (Program.run_of_ok (before_of_counts hs (by rfl) (by rfl)) (by rfl) (by rfl)
    (by rfl) (by rfl))]
  rfl

/-- Where handles are not counted on, the call stops before it has begun. -/
theorem call_of_not_counts (hs : ¬ arithmetic.Counts (s.closures.last.toNat + 1)) {name : String}
    {r : Routine} {scope : String} {k : CallbackScope} {args : List (Value (Int32 → Int32))}
    (hr : routine? name = some r) (hbefore : r.before = [.register "handle" "func" scope])
    (hk : scopeNamed? scope = some k)
    (hf : Variables.function? (r.params.zip args) "func" = some f) :
    program.call arithmetic host natives name args s = .error .overflow := by
  rw [call_eq hr, Program.run, hbefore]
  exact Run.bind_of_error (before_of_not_counts hs hk hf)

theorem applyTwice_of_not_counts (hs : ¬ arithmetic.Counts (s.closures.last.toNat + 1)) :
    applyTwice arithmetic f x s = .error .overflow :=
  Run.bind_of_error (call_of_not_counts hs routine_applyTwice rfl (by rfl) (by rfl))

theorem watch_of_not_counts (hs : ¬ arithmetic.Counts (s.closures.last.toNat + 1)) :
    watch arithmetic f x s = .error .overflow :=
  Run.bind_of_error (call_of_not_counts hs routine_watch rfl (by rfl) (by rfl))

theorem defer_of_not_counts (hs : ¬ arithmetic.Counts (s.closures.last.toNat + 1)) :
    defer arithmetic f s = .error .overflow :=
  Run.bind_of_error (call_of_not_counts hs routine_defer rfl (by rfl) (by rfl))

/-! ## Requests -/

/-- What is asked of a session, with the closures handed over. -/
inductive Request where
  | applyTwice (f : Int32 → Int32) (x : Int32)
  | defer (f : Int32 → Int32)
  | runDeferred (x : Int32)
  | watch (f : Int32 → Int32) (x : Int32)
  | pokeWatched (x : Int32)

namespace Request

/-- Whether a closure is deferred. -/
def defers : Request → Bool
  | .defer _ => true
  | _ => false

/-- Whether the deferred closure is run. -/
def runs : Request → Bool
  | .runDeferred _ => true
  | _ => false

/-- Whether a closure is watched. -/
def watches : Request → Bool
  | .watch .. => true
  | _ => false

/-- A closure is handed over, and is given a handle. -/
def registers : Request → Bool
  | .applyTwice .. | .defer _ | .watch .. => true
  | .runDeferred _ | .pokeWatched _ => false

end Request

/-- Calls the generated function that is asked for. -/
def serve (arithmetic : Arithmetic) : Request → Part Unit
  | .applyTwice f x => do let _ ← applyTwice arithmetic f x
  | .defer f => defer arithmetic f
  | .runDeferred x => do let _ ← runDeferred arithmetic x
  | .watch f x => do let _ ← watch arithmetic f x
  | .pokeWatched x => do let _ ← pokeWatched arithmetic x

/-- What is answered through what native code has kept. -/
def answer (s : Session) (x : Int32) : Option Pending → Int32
  | some p => ((s.closures.live.lookup p.data).bind (·.callable)).elim 0 (· x)
  | none => -1

theorem answer_of_none {h : Handle} (hl : s.closures.live.lookup h = none) :
    s.answer x (some (.of h)) = 0 := by
  rw [answer, Pending.of]
  dsimp only
  rw [hl]
  rfl

theorem answer_of_lookup {h : Handle} {scope : CallbackScope}
    (hl : s.closures.live.lookup h = some ⟨some f, scope⟩) :
    s.answer x (some (.of h)) = f x := by
  rw [answer, Pending.of]
  dsimp only
  rw [hl]
  rfl

/-- The session after a call through what native code has kept. -/
def calledBack (s : Session) : Option Pending → Session
  | some p =>
      if (s.closures.live.lookup p.data).isSome then
        { s with closures := (s.closures.unregister p.data).2, invoked := s.invoked ++ [p.data] }
      else s
  | none => s

theorem calledBack_of_none {h : Handle} (hl : s.closures.live.lookup h = none) :
    s.calledBack (some (.of h)) = s := by
  rw [calledBack, Pending.of]
  dsimp only
  rw [hl]
  rfl

theorem calledBack_of_lookup {h : Handle} {c : Closure (Int32 → Int32)}
    (hl : s.closures.live.lookup h = some c) :
    s.calledBack (some (.of h)) =
      { s with closures := (s.closures.unregister h).2, invoked := s.invoked ++ [h] } := by
  rw [calledBack, Pending.of]
  dsimp only
  rw [hl]
  rfl

/-- The session that follows a request, where handles go on being counted. -/
def follow (s : Session) : Request → Session
  | .applyTwice _ _ =>
      { s with closures := ⟨s.next, s.others⟩, invoked := s.invoked ++ [s.next] ++ [s.next] }
  | .defer f => { s.registered f .async with native.deferred := some (.of s.next) }
  | .runDeferred _ => s.calledBack s.native.deferred
  | .watch _ _ =>
      { closures := ⟨s.next, s.others⟩
        invoked := s.invoked ++ [s.next]
        native := { s.native with watched := some (.of s.next) } }
  | .pokeWatched _ => s.calledBack s.native.watched

/-- What native code keeps are calls of closures, and all that outlives a call waits to be run. -/
structure Ready (s : Session) : Prop where
  deferred : ∀ p, s.native.deferred = some p → ∃ h, p = .of h
  watched : ∀ p, s.native.watched = some p → ∃ h, p = .of h
  live : ∀ h c, s.closures.live.lookup h = some c → ∃ f, c = ⟨some f, .async⟩

theorem ready_fresh : fresh.Ready where
  deferred p h := by cases h
  watched p h := by cases h
  live h c hl := by cases hl

theorem lookup_others (s : Session) {h : Handle} {c : Closure (Int32 → Int32)}
    (hl : s.others.lookup h = some c) : s.closures.live.lookup h = some c := by
  by_cases hh : h = s.next
  · rw [others, hh, lookup_filter_self] at hl
    cases hl
  · rwa [others, lookup_filter_ne hh] at hl

namespace Ready

variable (hs : s.Ready) {p : Option Pending}
include hs

theorem callKept (hp : ∀ q, p = some q → ∃ h, q = .of h) (x : Int32) :
    callKept (program.enter host) p x s = .ok (s.answer x p, s.calledBack p) := by
  cases p with
  | none => rfl
  | some p =>
      obtain ⟨h, rfl⟩ := hp p rfl
      cases hl : s.closures.live.lookup h with
      | none =>
          rw [calledBack_of_none hl, answer_of_none hl]
          exact callBack_of_none hl x
      | some c =>
          obtain ⟨f, rfl⟩ := hs.live h c hl
          rw [calledBack_of_lookup hl, answer_of_lookup hl]
          exact callBack_of_lookup hl x

theorem calledBack : (s.calledBack p).Ready := by
  cases p with
  | none => exact hs
  | some p =>
      rw [Session.calledBack]
      split
      · refine ⟨hs.deferred, hs.watched, fun h c hl => ?_⟩
        rw [ClosureRegistry.lookup_unregister] at hl
        split at hl
        · cases hl
        · exact hs.live h c hl
      · exact hs

/-- What is asked for is done, where handles go on being counted. -/
theorem serve {q : Request}
    (hq : q.registers = true → arithmetic.Counts (s.closures.last.toNat + 1)) :
    Session.serve arithmetic q s = .ok ((), s.follow q) := by
  cases q with
  | applyTwice f x => exact Run.bind_of_ok (applyTwice_of_counts (hq rfl))
  | defer f => exact defer_of_counts (hq rfl)
  | runDeferred x => exact Run.bind_of_ok (runDeferred_of_ok (hs.callKept hs.deferred x))
  | watch f x => exact Run.bind_of_ok (watch_of_counts (hq rfl))
  | pokeWatched x => exact Run.bind_of_ok (pokeWatched_of_ok (hs.callKept hs.watched x))

theorem follow (q : Request) : (s.follow q).Ready := by
  cases q with
  | applyTwice f x =>
      exact ⟨hs.deferred, hs.watched, fun h c hl => hs.live h c (s.lookup_others hl)⟩
  | watch f x =>
      refine ⟨hs.deferred, ?_, fun h c hl => hs.live h c (s.lookup_others hl)⟩
      rintro p ⟨⟩
      exact ⟨_, rfl⟩
  | defer f =>
      refine ⟨?_, hs.watched, fun h c hl => ?_⟩
      · rintro p ⟨⟩
        exact ⟨_, rfl⟩
      · replace hl : ((s.next, _) :: s.others).lookup h = some c := hl
        rw [lookup_cons_eq_ite] at hl
        split at hl
        · cases hl
          exact ⟨f, rfl⟩
        · exact hs.live h c (s.lookup_others hl)
  | runDeferred x | pokeWatched x => exact hs.calledBack

end Ready

/-- Where handles are not counted on, a request for a registration stops. -/
theorem serve_of_not_counts {q : Request} (hq : q.registers = true)
    (hs : ¬ arithmetic.Counts (s.closures.last.toNat + 1)) :
    serve arithmetic q s = .error .overflow := by
  cases q with
  | applyTwice f x => exact Run.bind_of_error (applyTwice_of_not_counts hs)
  | defer f => exact defer_of_not_counts hs
  | watch f x => exact Run.bind_of_error (watch_of_not_counts hs)
  | runDeferred x | pokeWatched x => cases hq

end Session

end Introspect.Demo
