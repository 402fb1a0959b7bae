import Introspect.Proofs.Sessions
import Mathlib.Data.List.Infix

/-!
# Lifecycles of closures

Closures of three scopes share one registry, and native code keeps two handles, long after what they
stood for is gone. A closure for a call lives as long as the call; a watched one is released before
its only call returns; a deferred one lives until it is run, and if another one is deferred first it
is never run and never released.

The argument has three layers. `Effect` says once what a single request does to a session in which
no handle is given out twice (`Sound`). From it each property that later requests leave alone is a
step of its own, and `Sound.followAll_induction` carries those steps along a run. What a history
says of a session is put together from such runs: everything up to the last deferral, and what came
after.

Handles are counted in 64 bits. Where the arithmetic is checked, a session stops before the count
comes round; where it wraps, what depends on distinct handles is said of shorter sessions.
-/

namespace Introspect.Demo

open Binding
open Session (Request)

/-! ## What native code keeps -/

namespace Session

theorem native_calledBack (s : Session) (p : Option Pending) :
    (s.calledBack p).native = s.native := by
  cases p with
  | none => rfl
  | some p =>
      rw [calledBack]
      split <;> rfl

theorem deferred_follow (s : Session) {x : Request} (hx : x.defers = false) :
    (s.follow x).native.deferred = s.native.deferred := by
  cases x with
  | applyTwice f x | watch f x => rfl
  | defer f => cases hx
  | runDeferred x | pokeWatched x => exact congrArg Kept.deferred (s.native_calledBack _)

theorem isSome_watched_follow (s : Session) (x : Request) :
    (s.follow x).native.watched.isSome = (s.native.watched.isSome || x.watches) := by
  cases x with
  | watch f x => exact (Bool.or_true _).symm
  | applyTwice f x | defer f => exact (Bool.or_false _).symm
  | runDeferred x | pokeWatched x =>
      exact (congrArg (·.watched.isSome) (s.native_calledBack _)).trans (Bool.or_false _).symm

/-- The session that follows some requests. -/
def followAll (s : Session) (requests : List Request) : Session := requests.foldl follow s

theorem deferred_followAll {requests : List Request} (h : ∀ x ∈ requests, x.defers = false) :
    ∀ s : Session, (s.followAll requests).native.deferred = s.native.deferred := by
  induction requests with
  | nil => intro s; rfl
  | cons x rest ih =>
      intro s
      obtain ⟨hx, hrest⟩ := List.forall_mem_cons.mp h
      exact (ih hrest (s.follow x)).trans (s.deferred_follow hx)

theorem isSome_watched_followAll (requests : List Request) : ∀ s : Session,
    (s.followAll requests).native.watched.isSome =
      (s.native.watched.isSome || requests.any (·.watches)) := by
  induction requests with
  | nil => intro s; exact (Bool.or_false _).symm
  | cons x rest ih =>
      intro s
      rw [List.any_cons, ← Bool.or_assoc, ← s.isSome_watched_follow x]
      exact ih (s.follow x)

end Session

/-! ## Handles in a session -/

/-- The handle is one of the first `n` that a registry gives out. -/
def Old (n : Nat) (h : Handle) : Prop := ∃ i, 1 ≤ i ∧ i ≤ n ∧ h = UInt64.ofNat i

theorem Old.mono {m n : Nat} {h : Handle} (hold : Old m h) (hmn : m ≤ n) : Old n h := by
  obtain ⟨i, hi, him, rfl⟩ := hold
  exact ⟨i, hi, by omega, rfl⟩

theorem old_next (n : Nat) : Old (n + 1) (UInt64.ofNat (n + 1)) :=
  ⟨n + 1, by omega, Nat.le_refl _, rfl⟩

theorem not_old_next {n : Nat} (hn : n < 2 ^ 64) : ¬ Old n (UInt64.ofNat (n + 1)) := by
  rintro ⟨i, hi, hin, heq⟩
  have hmod := congrArg UInt64.toNat heq
  rw [UInt64.toNat_ofNat', UInt64.toNat_ofNat'] at hmod
  omega

/-- No handle is given out twice, and the watched one stands for nothing: it was released at
once. -/
structure Sound (n : Nat) (s : Session) : Prop where
  ready : s.Ready
  last : s.closures.last = UInt64.ofNat n
  live : ∀ h c, s.closures.live.lookup h = some c → Old n h
  distinct : (s.closures.live.map Prod.fst).Nodup
  deferred : ∀ h, s.native.deferred = some (.of h) → Old n h
  watched : ∀ h, s.native.watched = some (.of h) → Old n h ∧ s.closures.live.lookup h = none
  invoked : ∀ h ∈ s.invoked, Old n h

namespace Sound

variable {n : Nat} {s : Session}

theorem fresh : Sound 0 Session.fresh where
  ready := Session.ready_fresh
  last := rfl
  live h c hl := by cases hl
  distinct := List.nodup_nil
  deferred h hd := by cases hd
  watched h hw := by cases hw
  invoked h hi := by cases hi

theorem next (hs : Sound n s) : s.next = UInt64.ofNat (n + 1) := by
  rw [Session.next, hs.last, UInt64.ofNat_add]
  rfl

theorem lookup_next (hs : Sound n s) (hn : n < 2 ^ 64) : s.closures.live.lookup s.next = none := by
  cases hl : s.closures.live.lookup s.next with
  | none => rfl
  | some c =>
      have hold := hs.live _ _ hl
      rw [hs.next] at hold
      exact absurd hold (not_old_next hn)

/-- The next handle is new, so what is registered is what was registered before. -/
theorem others (hs : Sound n s) (hn : n < 2 ^ 64) : s.others = s.closures.live :=
  filter_eq_self_of_lookup (hs.lookup_next hn)

end Sound

/-! ## What a single request does -/

/-- What a request does to a session in which `n` closures have been registered. -/
inductive Effect (n : Nat) (s : Session) : Request → Session → Prop
  /-- A closure came and went. -/
  | passed {x : Request} {calls : List Handle} (registers : x.registers = true)
      (defers : x.defers = false) (runs : x.runs = false)
      (calls_eq : ∀ h ∈ calls, h = UInt64.ofNat (n + 1)) :
      Effect n s x
        { closures := ⟨UInt64.ofNat (n + 1), s.closures.live⟩
          invoked := s.invoked ++ calls
          native := { s.native with watched :=
            if x.watches = true then some (.of (UInt64.ofNat (n + 1))) else s.native.watched } }
  | deferred (f : Int32 → Int32) :
      Effect n s (.defer f)
        { s with
          closures := ⟨UInt64.ofNat (n + 1),
            (UInt64.ofNat (n + 1), ⟨some f, .async⟩) :: s.closures.live⟩
          native.deferred := some (.of (UInt64.ofNat (n + 1))) }
  | ran {x : Int32} {h : Handle} {f : Int32 → Int32} (deferred : s.native.deferred = some (.of h))
      (found : s.closures.live.lookup h = some ⟨some f, .async⟩) :
      Effect n s (.runDeferred x)
        { s with closures := (s.closures.unregister h).2, invoked := s.invoked ++ [h] }
  | idle {x : Request} (registers : x.registers = false)
      (stale : x.runs = true → ∀ h, s.native.deferred = some (.of h) →
        s.closures.live.lookup h = none) :
      Effect n s x s

variable {n : Nat} {s s' : Session} {x : Request} {h : Handle}

theorem Sound.effect_follow (hs : Sound n s) (hn : x.registers = true → n < 2 ^ 64) :
    Effect n s x (s.follow x) := by
  cases x with
  | applyTwice f x =>
      rw [Session.follow, hs.others (hn rfl), hs.next, List.append_assoc]
      exact .passed rfl rfl rfl (by simp)
  | watch f x =>
      rw [Session.follow, hs.others (hn rfl), hs.next]
      exact .passed rfl rfl rfl (by simp)
  | defer f =>
      rw [Session.follow, Session.registered, hs.others (hn rfl), hs.next]
      exact .deferred f
  | runDeferred x =>
      rw [Session.follow]
      cases hd : s.native.deferred with
      | none => exact .idle rfl fun _ h hh => by rw [hd] at hh; cases hh
      | some p =>
          obtain ⟨h, rfl⟩ := hs.ready.deferred p hd
          cases hl : s.closures.live.lookup h with
          | none =>
              rw [Session.calledBack_of_none hl]
              refine .idle rfl fun _ h' hh => ?_
              obtain rfl := Pending.of_inj (Option.some.inj (hd.symm.trans hh))
              exact hl
          | some c =>
              obtain ⟨f, rfl⟩ := hs.ready.live h c hl
              rw [Session.calledBack_of_lookup hl]
              exact .ran hd hl
  | pokeWatched x =>
      rw [Session.follow]
      cases hw : s.native.watched with
      | none => exact .idle rfl (by rintro ⟨⟩)
      | some p =>
          obtain ⟨h, rfl⟩ := hs.ready.watched p hw
          rw [Session.calledBack_of_none (hs.watched h hw).2]
          exact .idle rfl (by rintro ⟨⟩)

namespace Sound

theorem passed (hs : Sound n s) (hn : n < 2 ^ 64) {watched : Option Pending} {calls : List Handle}
    (hwatched : watched = some (.of (UInt64.ofNat (n + 1))) ∨ watched = s.native.watched)
    (hcalls : ∀ h ∈ calls, h = UInt64.ofNat (n + 1)) :
    Sound (n + 1)
      { closures := ⟨UInt64.ofNat (n + 1), s.closures.live⟩
        invoked := s.invoked ++ calls
        native := { s.native with watched } } where
  ready := by
    refine ⟨hs.ready.deferred, fun p hp => ?_, hs.ready.live⟩
    rcases hwatched with rfl | rfl
    · exact ⟨_, (Option.some.inj hp).symm⟩
    · exact hs.ready.watched p hp
  last := rfl
  live h c hl := (hs.live h c hl).mono (by omega)
  distinct := hs.distinct
  deferred h hd := (hs.deferred h hd).mono (by omega)
  watched := by
    intro h hw
    rcases hwatched with rfl | rfl
    · obtain rfl := Pending.of_inj (Option.some.inj hw)
      exact ⟨old_next n, hs.next ▸ hs.lookup_next hn⟩
    · exact ⟨(hs.watched h hw).1.mono (by omega), (hs.watched h hw).2⟩
  invoked := by
    intro h hi
    rcases List.mem_append.mp hi with hi | hi
    · exact (hs.invoked h hi).mono (by omega)
    · rw [hcalls h hi]
      exact old_next n

theorem defer (hs : Sound n s) (hn : n < 2 ^ 64) (f : Int32 → Int32) :
    Sound (n + 1)
      { s with
        closures := ⟨UInt64.ofNat (n + 1),
          (UInt64.ofNat (n + 1), ⟨some f, .async⟩) :: s.closures.live⟩
        native.deferred := some (.of (UInt64.ofNat (n + 1))) } where
  ready := by
    refine ⟨fun p hp => ⟨_, (Option.some.inj hp).symm⟩, hs.ready.watched, fun h c hl => ?_⟩
    rw [lookup_cons_eq_ite] at hl
    split at hl
    · cases hl
      exact ⟨f, rfl⟩
    · exact hs.ready.live h c hl
  last := rfl
  live := by
    intro h c hl
    rw [lookup_cons_eq_ite] at hl
    split at hl
    case isTrue hh => exact hh ▸ old_next n
    case isFalse => exact (hs.live h c hl).mono (by omega)
  distinct := by
    refine List.nodup_cons.mpr ⟨fun hmem => ?_, hs.distinct⟩
    obtain ⟨c, hl⟩ := exists_lookup hmem
    exact not_old_next hn (hs.live _ c hl)
  deferred := by
    intro h hd
    obtain rfl := Pending.of_inj (Option.some.inj hd)
    exact old_next n
  watched := by
    intro h hw
    obtain ⟨hold, hl⟩ := hs.watched h hw
    refine ⟨hold.mono (by omega), ?_⟩
    have hne : h ≠ UInt64.ofNat (n + 1) := by
      rintro rfl
      exact not_old_next hn hold
    rw [lookup_cons_eq_ite, if_neg hne, hl]
  invoked h hi := (hs.invoked h hi).mono (by omega)

theorem release (hs : Sound n s) (hh : Old n h) :
    Sound n { s with closures := (s.closures.unregister h).2, invoked := s.invoked ++ [h] } where
  ready := by
    refine ⟨hs.ready.deferred, hs.ready.watched, fun k c hl => ?_⟩
    rw [ClosureRegistry.lookup_unregister] at hl
    split at hl
    · cases hl
    · exact hs.ready.live k c hl
  last := hs.last
  live := by
    intro k c hl
    rw [ClosureRegistry.lookup_unregister] at hl
    split at hl
    · cases hl
    · exact hs.live k c hl
  distinct := ClosureRegistry.nodup_unregister hs.distinct h
  deferred := hs.deferred
  watched := by
    intro k hw
    refine ⟨(hs.watched k hw).1, ?_⟩
    rw [ClosureRegistry.lookup_unregister, (hs.watched k hw).2, ite_self]
  invoked := by
    intro k hi
    rcases List.mem_append.mp hi with hi | hi
    · exact hs.invoked k hi
    · rw [List.mem_singleton.mp hi]
      exact hh

theorem effect (hs : Sound n s) (hn : x.registers = true → n < 2 ^ 64) (he : Effect n s x s') :
    Sound (n + if x.registers then 1 else 0) s' := by
  cases he with
  | passed registers defers runs calls_eq =>
      rw [if_pos registers]
      refine hs.passed (hn registers) ?_ calls_eq
      split
      · exact .inl rfl
      · exact .inr rfl
  | deferred f => exact hs.defer (hn rfl) f
  | ran deferred found => exact hs.release (hs.deferred _ deferred)
  | idle registers stale =>
      rw [if_neg (by simp [registers])]
      exact hs

end Sound

/-! ## What later requests leave alone -/

namespace Effect

/-- A closure that waits goes on waiting. -/
theorem lookup_waiting (he : Effect n s x s') (hdefers : x.defers = false)
    (hruns : x.runs = false) {c : Closure (Int32 → Int32)}
    (hl : s.closures.live.lookup h = some c) :
    s'.closures.live.lookup h = some c := by
  cases he with
  | deferred => cases hdefers
  | ran => cases hruns
  | passed | idle => exact hl

/-- A handle that stands for nothing any more goes on doing so. -/
theorem lookup_spent (he : Effect n s x s') (hn : x.registers = true → n < 2 ^ 64) (hh : Old n h)
    (hl : s.closures.live.lookup h = none) :
    s'.closures.live.lookup h = none := by
  cases he with
  | deferred f =>
      have hne : h ≠ UInt64.ofNat (n + 1) := by
        rintro rfl
        exact not_old_next (hn rfl) hh
      dsimp only
      rw [lookup_cons_eq_ite, if_neg hne, hl]
  | ran =>
      dsimp only
      rw [ClosureRegistry.lookup_unregister, hl, ite_self]
  | passed | idle => exact hl

/-- What has run is spent. -/
theorem lookup_of_runs (he : Effect n s x s') (hruns : x.runs = true)
    (hd : s.native.deferred = some (.of h)) : s'.closures.live.lookup h = none := by
  cases he with
  | passed registers defers runs =>
      rw [hruns] at runs
      cases runs
  | deferred => cases hruns
  | ran deferred found =>
      obtain rfl := Pending.of_inj (Option.some.inj (deferred.symm.trans hd))
      dsimp only
      rw [ClosureRegistry.lookup_unregister, if_pos rfl]
  | idle registers stale => exact stale hruns h hd

/-- A closure from before is only called by what runs it. -/
theorem uncalled (he : Effect n s x s') (hn : x.registers = true → n < 2 ^ 64) (hh : Old n h)
    (hi : h ∉ s.invoked) (hruns : x.runs = true → s.native.deferred ≠ some (.of h)) :
    h ∉ s'.invoked := by
  cases he with
  | passed registers defers runs calls_eq =>
      refine fun hmem => (List.mem_append.mp hmem).elim hi fun hmem => ?_
      exact not_old_next (hn registers) (calls_eq h hmem ▸ hh)
  | deferred => exact hi
  | ran deferred found =>
      refine fun hmem => (List.mem_append.mp hmem).elim hi fun hmem => ?_
      exact hruns rfl (List.mem_singleton.mp hmem ▸ deferred)
  | idle => exact hi

/-- A handle that native code has given up is not taken up again. -/
theorem given_up (he : Effect n s x s') (hn : x.registers = true → n < 2 ^ 64) (hh : Old n h)
    (hd : s.native.deferred ≠ some (.of h)) : s'.native.deferred ≠ some (.of h) := by
  cases he with
  | passed => exact hd
  | deferred f => exact fun heq => not_old_next (hn rfl) (Pending.of_inj (Option.some.inj heq) ▸ hh)
  | ran => exact hd
  | idle => exact hd

end Effect

/-! ## Runs -/

/-- How many closures some requests register. -/
def registrations (requests : List Request) : Nat := requests.countP (·.registers)

/-- What every request keeps holds after all of them. -/
theorem Sound.followAll_induction {P : Nat → Session → Prop} {p : Request → Prop}
    (hstep : ∀ {n : Nat} {s s' : Session} {x : Request}, Sound n s →
      (x.registers = true → n < 2 ^ 64) → Effect n s x s' → p x → P n s →
        P (n + if x.registers then 1 else 0) s') (requests : List Request) :
    ∀ {n : Nat} {s : Session}, Sound n s → n + registrations requests ≤ 2 ^ 64 →
      (∀ x ∈ requests, p x) → P n s →
        P (n + registrations requests) (s.followAll requests) := by
  induction requests with
  | nil => exact fun _ _ _ h => h
  | cons x rest ih =>
      intro n s hs hn hp h
      rw [registrations, List.countP_cons, ← registrations] at hn ⊢
      obtain ⟨hx, hrest⟩ := List.forall_mem_cons.mp hp
      have hbound : x.registers = true → n < 2 ^ 64 := fun hx => by
        rw [if_pos hx] at hn
        omega
      have he := hs.effect_follow hbound
      have hone := hstep hs hbound he hx h
      have hall := ih (hs.effect hbound he) (by omega) hrest hone
      rwa [Nat.add_assoc, Nat.add_comm (if x.registers then 1 else 0)] at hall

theorem Sound.followAll (hs : Sound n s) (requests : List Request)
    (hn : n + registrations requests ≤ 2 ^ 64) :
    Sound (n + registrations requests) (s.followAll requests) :=
  followAll_induction (p := fun _ => True) (fun hs hn he _ _ => hs.effect hn he) requests hs
    hn (fun _ _ => trivial) hs

namespace Sound

variable {later : List Request} (hs : Sound n s) (hn : n + registrations later ≤ 2 ^ 64)
include hs hn

theorem waiting_followAll (hlater : ∀ x ∈ later, x.defers = false ∧ x.runs = false)
    {c : Closure (Int32 → Int32)} (hl : s.closures.live.lookup h = some c) :
    (s.followAll later).closures.live.lookup h = some c :=
  followAll_induction (P := fun _ s => s.closures.live.lookup h = some c)
    (fun _ _ he hx hl => he.lookup_waiting hx.1 hx.2 hl) later hs hn hlater hl

theorem spent_followAll (hh : Old n h) (hl : s.closures.live.lookup h = none) :
    (s.followAll later).closures.live.lookup h = none := by
  have hall := followAll_induction (p := fun _ => True)
    (P := fun n s => Old n h ∧ s.closures.live.lookup h = none)
    (fun _ hn he _ h => ⟨h.1.mono (by omega), he.lookup_spent hn h.1 h.2⟩)
    later hs hn (fun _ _ => trivial) ⟨hh, hl⟩
  exact hall.2

/-- A closure that is not run is not called. -/
theorem uncalled_followAll (hh : Old n h) (hi : h ∉ s.invoked)
    (hlater : ∀ x ∈ later, x.runs = false) : h ∉ (s.followAll later).invoked := by
  have hall := followAll_induction (P := fun n s => Old n h ∧ h ∉ s.invoked)
    (fun _ hn he hx h => ⟨h.1.mono (by omega),
      he.uncalled hn h.1 h.2 fun hruns => by rw [hx] at hruns; cases hruns⟩)
    later hs hn hlater ⟨hh, hi⟩
  exact hall.2

/-- A closure that native code has given up is not called either. -/
theorem given_up_followAll (hh : Old n h) (hi : h ∉ s.invoked)
    (hd : s.native.deferred ≠ some (.of h)) :
    h ∉ (s.followAll later).invoked := by
  have hall := followAll_induction (p := fun _ => True)
    (P := fun n s => Old n h ∧ h ∉ s.invoked ∧ s.native.deferred ≠ some (.of h))
    (fun _ hn he _ h => ⟨h.1.mono (by omega), he.uncalled hn h.1 h.2.1 fun _ => h.2.2,
      he.given_up hn h.1 h.2.2⟩)
    later hs hn (fun _ _ => trivial) ⟨hh, hi, hd⟩
  exact hall.2.1

end Sound

/-! ## Histories -/

/-- The session that follows some requests, from its beginning. -/
def reached (earlier : List Request) : Session := Session.fresh.followAll earlier

theorem reached_append (earlier later : List Request) :
    reached (earlier ++ later) = (reached earlier).followAll later := List.foldl_append

theorem registrations_append (earlier later : List Request) :
    registrations (earlier ++ later) = registrations earlier + registrations later :=
  List.countP_append

theorem registrations_le_append (earlier later : List Request) :
    registrations earlier ≤ registrations (earlier ++ later) := by
  rw [registrations_append]
  omega

theorem registrations_singleton (x : Request) :
    registrations [x] = if x.registers then 1 else 0 := List.countP_singleton

theorem sound_reached {earlier : List Request} (hn : registrations earlier ≤ 2 ^ 64) :
    Sound (registrations earlier) (reached earlier) := by
  have hall := Sound.fresh.followAll earlier (by omega)
  rwa [Nat.zero_add] at hall

theorem effect_reached {earlier : List Request} {x : Request}
    (hn : registrations (earlier ++ [x]) ≤ 2 ^ 64) :
    (x.registers = true → registrations earlier < 2 ^ 64) ∧
      Effect (registrations earlier) (reached earlier) x (reached (earlier ++ [x])) := by
  rw [registrations_append, registrations_singleton] at hn
  have hbound : x.registers = true → registrations earlier < 2 ^ 64 := fun hx => by
    rw [if_pos hx] at hn
    omega
  rw [reached_append]
  exact ⟨hbound, (sound_reached (by omega)).effect_follow hbound⟩

/-- The handle that native code is given for a deferred closure. -/
def WaitsAs (earlier : List Request) (h : Handle) (f : Int32 → Int32) : Prop :=
  ∃ before later, earlier = before ++ .defer f :: later ∧
    (reached (before ++ [.defer f])).native.deferred = some (.of h)

/-- What is deferred waits to be run. -/
theorem reached_defer {before : List Request} {f : Int32 → Int32}
    (hn : registrations (before ++ [.defer f]) ≤ 2 ^ 64) :
    ∃ h, h = UInt64.ofNat (registrations before + 1) ∧
      (reached (before ++ [.defer f])).native.deferred = some (.of h) ∧
      (reached (before ++ [.defer f])).closures.live.lookup h = some ⟨some f, .async⟩ ∧
      h ∉ (reached (before ++ [.defer f])).invoked := by
  obtain ⟨hbound, he⟩ := effect_reached hn
  have hbefore := (registrations_le_append before [.defer f]).trans hn
  refine ⟨_, rfl, ?_⟩
  generalize reached (before ++ [.defer f]) = s' at he
  cases he with
  | passed registers defers => cases defers
  | deferred =>
      refine ⟨rfl, List.lookup_cons_self, fun hi => ?_⟩
      exact not_old_next (hbound rfl) ((sound_reached hbefore).invoked _ hi)
  | idle registers => cases registers

theorem WaitsAs.old {earlier : List Request} {h : Handle} {f : Int32 → Int32}
    (hd : WaitsAs earlier h f) (hn : registrations earlier ≤ 2 ^ 64) :
    Old (registrations earlier) h := by
  obtain ⟨before, later, rfl, hd⟩ := hd
  rw [List.append_cons, registrations_append] at hn ⊢
  exact ((sound_reached (by omega)).deferred h hd).mono (by omega)

theorem deferred_append {earlier : List Request} {x : Request} {h : Handle} {f : Int32 → Int32} :
    WaitsAs (earlier ++ [x]) h f ↔ WaitsAs earlier h f ∨
      (x = .defer f ∧ (reached (earlier ++ [x])).native.deferred = some (.of h)) := by
  constructor
  · rintro ⟨before, later, hsplit, hd⟩
    rcases append_singleton_eq_iff.mp hsplit with ⟨rfl, rfl, -⟩ | ⟨later', hearlier, -⟩
    · exact .inr ⟨rfl, hd⟩
    · exact .inl ⟨before, later', hearlier, hd⟩
  · rintro (⟨before, later, hearlier, hd⟩ | ⟨rfl, hd⟩)
    · exact ⟨before, later ++ [x], append_singleton_eq_iff.mpr (.inr ⟨later, hearlier, rfl⟩), hd⟩
    · exact ⟨earlier, [], rfl, hd⟩

section
variable {earlier : List Request} (hn : registrations earlier ≤ 2 ^ 64)
include hn

/-- The live closures are the deferred ones that have not been called. -/
theorem lookup_reached (h : Handle) (c : Closure (Int32 → Int32)) :
    (reached earlier).closures.live.lookup h = some c ↔
      ∃ f, WaitsAs earlier h f ∧ h ∉ (reached earlier).invoked ∧ c = ⟨some f, .async⟩ := by
  induction earlier using List.reverseRecOn with
  | nil =>
      refine iff_of_false (by rintro ⟨⟩) ?_
      rintro ⟨f, ⟨before, later, hnil, -⟩, -⟩
      cases before <;> cases hnil
  | append_singleton earlier x ih =>
      have hearlier := (registrations_le_append earlier [x]).trans hn
      have hold : ∀ {f}, WaitsAs earlier h f → Old (registrations earlier) h :=
        fun hd => hd.old hearlier
      replace ih := ih hearlier
      obtain ⟨hbound, he⟩ := effect_reached hn
      simp only [deferred_append]
      generalize reached (earlier ++ [x]) = s' at he ⊢
      cases he with
      | passed registers defers runs calls_eq =>
          refine ih.trans (exists_congr fun f => ?_)
          have hx : x ≠ .defer f := by
            rintro rfl
            cases defers
          rw [or_iff_left fun hd => hx hd.1]
          refine and_congr_right fun hd => and_congr_left fun _ => not_congr ?_
          refine (or_iff_left fun hcall => ?_).symm.trans List.mem_append.symm
          exact not_old_next (hbound registers) (calls_eq h hcall ▸ hold hd)
      | deferred f =>
          dsimp only
          rw [lookup_cons_eq_ite]
          by_cases hh : h = UInt64.ofNat (registrations earlier + 1)
          · have hnew : ¬ Old (registrations earlier) h := hh ▸ not_old_next (hbound rfl)
            rw [if_pos hh]
            constructor
            · intro hc
              exact ⟨f, .inr ⟨rfl, by rw [hh]⟩, fun hi =>
                hnew ((sound_reached hearlier).invoked h hi), (Option.some.inj hc).symm⟩
            · rintro ⟨f', hd | ⟨hf, -⟩, -, rfl⟩
              · exact absurd (hold hd) hnew
              · cases hf
                rfl
          · rw [if_neg hh]
            refine ih.trans (exists_congr fun f' => and_congr_left fun _ => ?_)
            exact (or_iff_left fun hd => hh (Pending.of_inj (Option.some.inj hd.2)).symm).symm
      | @ran y k f deferred found =>
          dsimp only
          rw [ClosureRegistry.lookup_unregister]
          by_cases hh : h = k
          · rw [if_pos hh]
            refine iff_of_false (by rintro ⟨⟩) ?_
            rintro ⟨f', -, hi, -⟩
            exact hi (List.mem_append_right _ (List.mem_singleton.mpr hh))
          · rw [if_neg hh]
            refine ih.trans (exists_congr fun f' => ?_)
            rw [or_iff_left (by rintro ⟨⟨⟩, -⟩)]
            refine and_congr_right fun _ => and_congr_left fun _ => not_congr ?_
            exact (or_iff_left fun hi => hh (List.mem_singleton.mp hi)).symm.trans
              List.mem_append.symm
      | idle registers stale =>
          refine ih.trans (exists_congr fun f => and_congr_left fun _ => ?_)
          refine (or_iff_left ?_).symm
          rintro ⟨rfl, -⟩
          cases registers

/-- A deferred closure is called once at most. -/
theorem count_reached {h : Handle} {f : Int32 → Int32} (hd : WaitsAs earlier h f) :
    (reached earlier).invoked.count h ≤ 1 := by
  induction earlier using List.reverseRecOn with
  | nil =>
      obtain ⟨before, later, hnil, -⟩ := hd
      cases before <;> cases hnil
  | append_singleton earlier x ih =>
      have hearlier := (registrations_le_append earlier [x]).trans hn
      obtain ⟨hbound, he⟩ := effect_reached hn
      rcases deferred_append.mp hd with hd | ⟨rfl, hd⟩
      · have hold := hd.old hearlier
        replace ih := ih hearlier hd
        generalize reached (earlier ++ [x]) = s' at he ⊢
        cases he with
        | passed registers defers runs calls_eq =>
            have hcalls : h ∉ _ := fun hcall =>
              not_old_next (hbound registers) (calls_eq h hcall ▸ hold)
            rwa [List.count_append, List.count_eq_zero.mpr hcalls, Nat.add_zero]
        | deferred f => exact ih
        | @ran y k f deferred found =>
            rw [List.count_append]
            by_cases hh : h = k
            · obtain ⟨f', -, hi, -⟩ := (lookup_reached hearlier k _).mp found
              rw [hh, List.count_eq_zero.mpr hi, List.count_singleton_self]
            · rwa [List.count_eq_zero.mpr fun hi => hh (List.mem_singleton.mp hi), Nat.add_zero]
        | idle => exact ih
      · obtain ⟨h', -, hd', -, hi⟩ := reached_defer hn
        obtain rfl := Pending.of_inj (Option.some.inj (hd'.symm.trans hd))
        rw [List.count_eq_zero.mpr hi]
        omega

end

/-! ## Runs from a deferral on -/

section
variable {before later : List Request} {f : Int32 → Int32}

theorem registrations_split : registrations (before ++ .defer f :: later) =
    registrations (before ++ [.defer f]) + registrations later := by
  rw [List.append_cons, registrations_append]

theorem reached_split :
    reached (before ++ .defer f :: later) = (reached (before ++ [.defer f])).followAll later := by
  rw [List.append_cons, reached_append]

variable (hn : registrations (before ++ .defer f :: later) ≤ 2 ^ 64)
include hn

theorem reached_defer_le : registrations (before ++ [.defer f]) ≤ 2 ^ 64 := by
  rw [registrations_split] at hn
  omega

theorem waiting_reached (hlater : ∀ y ∈ later, y.defers = false ∧ y.runs = false) :
    ∃ h, (reached (before ++ .defer f :: later)).native.deferred = some (.of h) ∧
      (reached (before ++ .defer f :: later)).closures.live.lookup h =
        some ⟨some f, .async⟩ := by
  obtain ⟨h, -, hd, hl, -⟩ := reached_defer (reached_defer_le hn)
  have hs := sound_reached (reached_defer_le hn)
  rw [registrations_split] at hn
  rw [reached_split]
  exact ⟨h, (Session.deferred_followAll (fun y hy => (hlater y hy).1) _).trans hd,
    hs.waiting_followAll hn hlater hl⟩

theorem spent_reached (hlater : ∀ y ∈ later, y.defers = false)
    (hruns : ∃ y ∈ later, y.runs = true) :
    ∃ h, (reached (before ++ .defer f :: later)).native.deferred = some (.of h) ∧
      (reached (before ++ .defer f :: later)).closures.live.lookup h = none := by
  obtain ⟨h, -, hd, -, -⟩ := reached_defer (reached_defer_le hn)
  have hs := sound_reached (reached_defer_le hn)
  obtain ⟨y, hy, hruns⟩ := hruns
  obtain ⟨between, rest, rfl⟩ := List.append_of_mem hy
  have hsplit : before ++ .defer f :: (between ++ y :: rest) =
      (before ++ .defer f :: between) ++ [y] ++ rest := by simp
  refine ⟨h, ?_, ?_⟩
  · rw [reached_split, ← hd]
    exact Session.deferred_followAll hlater _
  · rw [hsplit] at hn ⊢
    have hrun := (registrations_le_append _ rest).trans hn
    have hbetween := (registrations_le_append _ [y]).trans hrun
    have hwait : (reached (before ++ .defer f :: between)).native.deferred = some (.of h) := by
      rw [reached_split, ← hd]
      exact Session.deferred_followAll (fun y hy => hlater y (List.mem_append_left _ hy)) _
    have hold := ((sound_reached hbetween).deferred h hwait).mono (registrations_le_append _ [y])
    rw [registrations_append] at hn
    rw [reached_append]
    exact (sound_reached hrun).spent_followAll hn hold
      ((effect_reached hrun).2.lookup_of_runs hruns hwait)

end

/-- Native code gives up a closure when another one is deferred; it is never called then. -/
theorem not_mem_invoked_reached {before between later : List Request} {f g : Int32 → Int32}
    {h : Handle}
    (hn : registrations (before ++ .defer f :: (between ++ .defer g :: later)) ≤ 2 ^ 64)
    (hbetween : ∀ y ∈ between, y.runs = false)
    (hd : (reached (before ++ [.defer f])).native.deferred = some (.of h)) :
    h ∉ (reached (before ++ .defer f :: (between ++ .defer g :: later))).invoked := by
  have hsplit : before ++ .defer f :: (between ++ .defer g :: later) =
      (before ++ .defer f :: between) ++ .defer g :: later := by simp
  rw [hsplit] at hn ⊢
  have hagain := reached_defer_le hn
  have hfirst := (registrations_le_append _ [.defer g]).trans hagain
  obtain ⟨k, -, hk, -, hi⟩ := reached_defer (reached_defer_le hfirst)
  obtain rfl := Pending.of_inj (Option.some.inj (hk.symm.trans hd))
  have hs := sound_reached (reached_defer_le hfirst)
  have huncalled : k ∉ (reached (before ++ .defer f :: between)).invoked := by
    rw [reached_split]
    rw [registrations_split] at hfirst
    exact hs.uncalled_followAll hfirst (hs.deferred k hd) hi hbetween
  have hold : Old (registrations (before ++ .defer f :: between)) k := by
    rw [registrations_split]
    exact (hs.deferred k hd).mono (by omega)
  obtain ⟨hbound, he⟩ := effect_reached hagain
  obtain ⟨k', hk', hd', -, -⟩ := reached_defer hagain
  have hother : (reached (before ++ .defer f :: between ++ [.defer g])).native.deferred ≠
    some (.of k) := by
    rw [hd', hk']
    exact fun heq => not_old_next (hbound rfl) (Pending.of_inj (Option.some.inj heq) ▸ hold)
  rw [reached_split]
  refine (sound_reached hagain).given_up_followAll (by rwa [← registrations_split])
    (hold.mono (registrations_le_append _ _)) (he.uncalled hbound hold huncalled ?_) hother
  rintro ⟨⟩

theorem eq_of_registrations_eq {before before' later later' : List Request} {f : Int32 → Int32}
    (hsplit : before ++ .defer f :: later = before' ++ later') (hinit : before <+: before')
    (hcount : registrations before = registrations before') : before = before' := by
  obtain ⟨rest, rfl⟩ := hinit
  rw [List.append_assoc] at hsplit
  cases rest with
  | nil => exact (List.append_nil before).symm
  | cons x rest =>
      obtain ⟨rfl, -⟩ := List.cons.inj (List.append_cancel_left hsplit)
      have hrest : registrations (.defer f :: rest) = registrations rest + 1 :=
        List.countP_cons_of_pos rfl
      rw [registrations_append] at hcount
      omega

theorem apart_reached {earlier before before' later later' : List Request} {f f' : Int32 → Int32}
    {h : Handle} (hn : registrations earlier ≤ 2 ^ 64)
    (hfirst : earlier = before ++ .defer f :: later)
    (hsecond : earlier = before' ++ .defer f' :: later')
    (hd : (reached (before ++ [.defer f])).native.deferred = some (.of h))
    (hd' : (reached (before' ++ [.defer f'])).native.deferred = some (.of h)) : before =
    before' := by
  have hle := reached_defer_le (hfirst ▸ hn)
  have hle' := reached_defer_le (hsecond ▸ hn)
  obtain ⟨k, hk, hkd, -, -⟩ := reached_defer hle
  obtain ⟨k', hk', hkd', -, -⟩ := reached_defer hle'
  obtain rfl := Pending.of_inj (Option.some.inj (hkd.symm.trans hd))
  obtain rfl := Pending.of_inj (Option.some.inj (hkd'.symm.trans hd'))
  have hcount : registrations before = registrations before' := by
    rw [registrations_append] at hle hle'
    have hone : ∀ f, registrations [.defer f] = 1 := fun _ => rfl
    have hmod := congrArg UInt64.toNat (hk.symm.trans hk')
    rw [UInt64.toNat_ofNat', UInt64.toNat_ofNat'] at hmod
    rw [hone] at hle hle'
    omega
  rcases List.prefix_or_prefix_of_prefix ⟨_, hfirst.symm⟩ ⟨_, hsecond.symm⟩ with hp | hp
  · exact eq_of_registrations_eq (hfirst.symm.trans hsecond) hp hcount
  · exact (eq_of_registrations_eq (hsecond.symm.trans hfirst) hp hcount.symm).symm

/-! ## Sessions that are served -/

/-- A session in which requests are served one after another, or why it stops. -/
def served (arithmetic : Arithmetic) (earlier : List Request) : Except Fault Session :=
  earlier.foldlM (fun s x => Prod.snd <$> Session.serve arithmetic x s) Session.fresh

theorem served_append (arithmetic : Arithmetic) (earlier : List Request) (x : Request) :
    served arithmetic (earlier ++ [x]) =
      served arithmetic earlier >>= fun s => Prod.snd <$> Session.serve arithmetic x s := by
  simp only [served, List.foldlM_append, List.foldlM_cons, List.foldlM_nil, bind_pure]

theorem ready_reached (earlier : List Request) : (reached earlier).Ready := by
  induction earlier using List.reverseRecOn with
  | nil => exact Session.ready_fresh
  | append_singleton earlier x ih =>
      rw [reached_append]
      exact ih.follow x

section
variable {arithmetic : Arithmetic} {earlier : List Request}

/-- Handles go on being counted exactly where one more registration is. -/
theorem counts_next (h : arithmetic.Counts (registrations earlier)) :
    arithmetic.Counts ((reached earlier).closures.last.toNat + 1) ↔
      arithmetic.Counts (registrations earlier + 1) := by
  refine forall_congr' fun hchecked => ?_
  have hn := h hchecked
  have hlast : (reached earlier).closures.last.toNat = registrations earlier := by
    rw [(sound_reached (Nat.le_of_lt hn)).last, UInt64.toNat_ofNat', Nat.mod_eq_of_lt hn]
  rw [hlast]

theorem counts_of_append {later : List Request}
    (h : arithmetic.Counts (registrations (earlier ++ later))) :
    arithmetic.Counts (registrations earlier) := fun hchecked =>
  Nat.lt_of_le_of_lt (registrations_le_append earlier later) (h hchecked)

/-- As long as registrations are counted, a session goes on. -/
theorem served_of_counts (h : arithmetic.Counts (registrations earlier)) :
    served arithmetic earlier = .ok (reached earlier) := by
  induction earlier using List.reverseRecOn with
  | nil => rfl
  | append_singleton earlier x ih =>
      have hearlier := counts_of_append h
      rw [served_append, ih hearlier, reached_append]
      have hserve : Session.serve arithmetic x (reached earlier) =
          .ok ((), (reached earlier).follow x) := by
        refine (ready_reached earlier).serve fun hx => ?_
        rw [registrations_append, registrations_singleton, if_pos hx] at h
        exact (counts_next hearlier).mpr h
      show Prod.snd <$> Session.serve arithmetic x (reached earlier) = _
      rw [hserve]
      rfl

theorem served_of_not_counts (h : ¬ arithmetic.Counts (registrations earlier)) :
    served arithmetic earlier = .error .overflow := by
  induction earlier using List.reverseRecOn with
  | nil => exact absurd (Arithmetic.counts_of_lt (by decide)) h
  | append_singleton earlier x ih =>
      rw [served_append]
      by_cases hearlier : arithmetic.Counts (registrations earlier)
      · rw [registrations_append, registrations_singleton] at h
        by_cases hx : x.registers = true
        · rw [if_pos hx] at h
          rw [served_of_counts hearlier]
          show Prod.snd <$> Session.serve arithmetic x (reached earlier) = _
          rw [Session.serve_of_not_counts hx ((counts_next hearlier).not.mpr h)]
          rfl
        · rw [if_neg hx] at h
          exact absurd hearlier h
      · rw [ih hearlier]
        rfl

theorem counts_of_served {s : Session} (h : served arithmetic earlier = .ok s) :
    arithmetic.Counts (registrations earlier) := by
  by_contra hn
  rw [served_of_not_counts hn] at h
  cases h

theorem served_iff {s : Session} : served arithmetic earlier = .ok s ↔
    arithmetic.Counts (registrations earlier) ∧ s = reached earlier := by
  constructor
  · intro h
    have hcounts := counts_of_served h
    rw [served_of_counts hcounts] at h
    exact ⟨hcounts, (Except.ok.inj h).symm⟩
  · rintro ⟨hcounts, rfl⟩
    exact served_of_counts hcounts

end

/-! ## Lifecycles -/

section
variable (arithmetic : Arithmetic) (earlier : List Request)

/-- How a call that registers a closure is answered; it stops where no word counts the closure. -/
def Answered (p : Int32 → Session → Prop) : Except Fault (Int32 × Session) → Prop
  | .ok (y, s) => p y s
  | .error fault => fault = .overflow ∧ arithmetic = .checked ∧ 2 ^ 64 ≤ registrations earlier + 1

/-- The handle that was given out for a closure when it was deferred after these requests. -/
def HandleOf (before : List Request) (f : Int32 → Int32) (h : Handle) : Prop :=
  ∃ s, served arithmetic (before ++ [.defer f]) = .ok s ∧ s.native.deferred = some (.of h)

/-- The closure was deferred by one of the requests, under this handle. -/
def DeferredAs (h : Handle) (f : Int32 → Int32) : Prop :=
  ∃ before later, earlier = before ++ .defer f :: later ∧ HandleOf arithmetic before f h

/-- What a session answers however many closures have been registered. -/
structure Answers (s : Session) : Prop where
  applyTwice : ∀ f x, Answered arithmetic earlier
    (fun y s' => y = f (f x) ∧ s'.closures.live ⊆ s.closures.live)
    (Session.applyTwice arithmetic f x s)
  watch : ∀ f x, Answered arithmetic earlier
    (fun y s' => y = f x ∧ s'.closures.live ⊆ s.closures.live) (Session.watch arithmetic f x s)
  pokeUnwatched : (∀ y ∈ earlier, y.watches = false) →
    ∀ x, Session.pokeWatched arithmetic x s = .ok (-1, s)
  runUndeferred : (∀ y ∈ earlier, y.defers = false) →
    ∀ x, Session.runDeferred arithmetic x s = .ok (-1, s)

/-- What a session answers, and what it holds, as long as every closure has a handle of its own. -/
structure Lives (s : Session) : Prop where
  applyTwice : ∀ f x, Answered arithmetic earlier
    (fun _ s' => s'.closures.live = s.closures.live) (Session.applyTwice arithmetic f x s)
  watch : ∀ f x, Answered arithmetic earlier
    (fun _ s' => s'.closures.live = s.closures.live) (Session.watch arithmetic f x s)
  pokeWatched : (∃ y ∈ earlier, y.watches = true) →
    ∀ x, Session.pokeWatched arithmetic x s = .ok (0, s)
  runFirst : ∀ before f later, earlier = before ++ .defer f :: later →
    (∀ y ∈ later, y.defers = false ∧ y.runs = false) →
      ∀ x, ∃ s', Session.runDeferred arithmetic x s = .ok (f x, s')
  runAgain : ∀ before f later, earlier = before ++ .defer f :: later →
    (∀ y ∈ later, y.defers = false) → (∃ y ∈ later, y.runs = true) →
      ∀ x, Session.runDeferred arithmetic x s = .ok (0, s)
  handle : ∀ before f later, earlier = before ++ .defer f :: later →
    ∃ h, HandleOf arithmetic before f h
  /-- Closures deferred at different times have different handles. -/
  apart : ∀ before f later before' f' later' h,
    earlier = before ++ .defer f :: later → earlier = before' ++ .defer f' :: later' →
      HandleOf arithmetic before f h → HandleOf arithmetic before' f' h → before = before'
  once : ∀ h f, DeferredAs arithmetic earlier h f → s.invoked.count h ≤ 1
  superseded : ∀ before f between g later h,
    earlier = before ++ .defer f :: (between ++ .defer g :: later) →
      (∀ y ∈ between, y.runs = false) → HandleOf arithmetic before f h → h ∉ s.invoked
  /-- What lives is what was deferred and has not been called. -/
  live : ∀ h c, (h, c) ∈ s.closures.live ↔
    ∃ f, DeferredAs arithmetic earlier h f ∧ h ∉ s.invoked ∧ c = ⟨some f, .async⟩
  distinct : (s.closures.live.map Prod.fst).Nodup

/-- The lifecycles of the closures of a session. -/
structure Lifecycles : Prop where
  /-- The functions and trampolines of the session are those the namespace's file is written
  with. -/
  written : ∃ g, generate? scope {} = some g ∧ program.WrittenIn g.file
  /-- Nothing else stops a session than a count that no word holds, where that is checked. -/
  stops : ∀ fault, served arithmetic earlier = .error fault →
    fault = .overflow ∧ arithmetic = .checked ∧ 2 ^ 64 ≤ registrations earlier
  answers : ∀ s, served arithmetic earlier = .ok s → Answers arithmetic earlier s
  lives : ∀ s, served arithmetic earlier = .ok s →
    (arithmetic = .wrapping → registrations earlier < 2 ^ 64) → Lives arithmetic earlier s

end

section
variable {arithmetic : Arithmetic} {earlier : List Request}

theorem answered {p : Int32 → Session → Prop} {call : Part Int32} {y : Int32} {s s' : Session}
    (hs : s = reached earlier) (hearlier : arithmetic.Counts (registrations earlier))
    (hok : arithmetic.Counts (s.closures.last.toNat + 1) → call s = .ok (y, s'))
    (herror : ¬ arithmetic.Counts (s.closures.last.toNat + 1) → call s = .error .overflow)
    (hp : p y s') : Answered arithmetic earlier p (call s) := by
  subst hs
  by_cases h : arithmetic.Counts ((reached earlier).closures.last.toNat + 1)
  · rw [hok h]
    exact hp
  · rw [herror h]
    exact ⟨rfl, Arithmetic.not_counts ((counts_next hearlier).not.mp h)⟩

theorem others_subset (s : Session) : s.others ⊆ s.closures.live := List.filter_subset_self _

theorem answers_reached (h : arithmetic.Counts (registrations earlier)) :
    Answers arithmetic earlier (reached earlier) where
  applyTwice f x := answered rfl h Session.applyTwice_of_counts Session.applyTwice_of_not_counts
    ⟨rfl, others_subset _⟩
  watch f x := answered rfl h Session.watch_of_counts Session.watch_of_not_counts
    ⟨rfl, others_subset _⟩
  pokeUnwatched := by
    intro hearlier x
    have hnone : (reached earlier).native.watched = none := by
      rw [← Option.not_isSome_iff_eq_none, reached, Session.isSome_watched_followAll,
        List.any_eq_false.mpr fun y hy => by simp [hearlier y hy]]
      exact Bool.false_ne_true
    refine Session.pokeWatched_of_ok ?_
    rw [hnone]
    rfl
  runUndeferred := by
    intro hearlier x
    have hnone : (reached earlier).native.deferred = none :=
      Session.deferred_followAll hearlier Session.fresh
    refine Session.runDeferred_of_ok ?_
    rw [hnone]
    rfl

theorem handleOf_iff {before : List Request} {f : Int32 → Int32} {h : Handle}
    (hcounts : arithmetic.Counts (registrations (before ++ [.defer f]))) :
    HandleOf arithmetic before f h ↔
      (reached (before ++ [.defer f])).native.deferred = some (.of h) := by
  simp [HandleOf, served_of_counts hcounts]

theorem counts_of_split {before later : List Request} {f : Int32 → Int32}
    (h : arithmetic.Counts (registrations earlier))
    (hsplit : earlier = before ++ .defer f :: later) :
    arithmetic.Counts (registrations (before ++ [.defer f])) := by
  rw [hsplit, List.append_cons] at h
  exact counts_of_append h

theorem deferredAs_iff {h : Handle} {f : Int32 → Int32}
    (hcounts : arithmetic.Counts (registrations earlier)) :
    DeferredAs arithmetic earlier h f ↔ WaitsAs earlier h f :=
  exists_congr fun _ => exists_congr fun _ => and_congr_right fun hsplit =>
    handleOf_iff (counts_of_split hcounts hsplit)

theorem lives_reached (hn : registrations earlier < 2 ^ 64) :
    Lives arithmetic earlier (reached earlier) := by
  have hle : registrations earlier ≤ 2 ^ 64 := by omega
  have hcounts : arithmetic.Counts (registrations earlier) := Arithmetic.counts_of_lt hn
  have hs := sound_reached hle
  constructor
  case applyTwice =>
    exact fun f x => answered rfl hcounts Session.applyTwice_of_counts
      Session.applyTwice_of_not_counts (hs.others hn)
  case watch =>
    exact fun f x => answered rfl hcounts Session.watch_of_counts Session.watch_of_not_counts
      (hs.others hn)
  case pokeWatched =>
    intro hearlier x
    have hsome : (reached earlier).native.watched.isSome := by
      rw [reached, Session.isSome_watched_followAll, List.any_eq_true.mpr hearlier, Bool.or_true]
    obtain ⟨p, hp⟩ := Option.isSome_iff_exists.mp hsome
    obtain ⟨h, rfl⟩ := hs.ready.watched p hp
    refine Session.pokeWatched_of_ok ?_
    rw [hp]
    exact callBack_of_none (hs.watched h hp).2 x
  case runFirst =>
    rintro before f later rfl hlater x
    obtain ⟨h, hd, hl⟩ := waiting_reached hle hlater
    have hkept : callKept (program.enter host) (some (.of h)) x _ = _ := callBack_of_lookup hl x
    exact ⟨_, Session.runDeferred_of_ok (hd ▸ hkept)⟩
  case runAgain =>
    rintro before f later rfl hlater hruns x
    obtain ⟨h, hd, hl⟩ := spent_reached hle hlater hruns
    refine Session.runDeferred_of_ok ?_
    rw [hd]
    exact callBack_of_none hl x
  case handle =>
    rintro before f later hsplit
    have hdefer := counts_of_split hcounts hsplit
    obtain ⟨h, -, hd, -, -⟩ := reached_defer (reached_defer_le (hsplit ▸ hle))
    exact ⟨h, (handleOf_iff hdefer).mpr hd⟩
  case apart =>
    intro before f later before' f' later' h hfirst hsecond hd hd'
    exact apart_reached hle hfirst hsecond ((handleOf_iff (counts_of_split hcounts hfirst)).mp hd)
      ((handleOf_iff (counts_of_split hcounts hsecond)).mp hd')
  case once => exact fun h f hd => count_reached hle ((deferredAs_iff hcounts).mp hd)
  case superseded =>
    rintro before f between g later h rfl hbetween hd
    exact not_mem_invoked_reached hle hbetween
      ((handleOf_iff (counts_of_split hcounts rfl)).mp hd)
  case live =>
    intro h c
    refine (mem_iff_lookup hs.distinct).trans ((lookup_reached hle h c).trans ?_)
    exact exists_congr fun f => and_congr_left' (deferredAs_iff hcounts).symm
  case distinct => exact hs.distinct

end

theorem isSome_generate?_scope : (generate? scope {}).isSome := by decide +kernel

/-- After any requests, in any arithmetic. Where the count of handles wraps, it comes round after
`2 ^ 64` registrations, and a handle that is given out again stands for another closure; so there
what depends on distinct handles is said of shorter sessions. -/
theorem lifecycles_after (arithmetic : Arithmetic) (earlier : List Request) :
    Lifecycles arithmetic earlier where
  written := by
    obtain ⟨g, hg⟩ := Option.isSome_iff_exists.mp isSome_generate?_scope
    exact ⟨g, hg, Program.writtenIn_of_generate? hg⟩
  stops := by
    intro fault h
    have hcounts : ¬ arithmetic.Counts (registrations earlier) := fun hcounts => by
      rw [served_of_counts hcounts] at h
      cases h
    rw [served_of_not_counts hcounts] at h
    cases h
    exact ⟨rfl, Arithmetic.not_counts hcounts⟩
  answers := by
    intro s h
    obtain ⟨hcounts, rfl⟩ := served_iff.mp h
    exact answers_reached hcounts
  lives := by
    intro s h hwraps
    obtain ⟨hcounts, rfl⟩ := served_iff.mp h
    refine lives_reached ?_
    cases arithmetic with
    | wrapping => exact hwraps rfl
    | checked => exact hcounts rfl

/-- One closure is deferred and never run, another one is run twice. -/
def overtaken : List Request :=
  [.defer (· + 1), .applyTwice (· * 3) 2, .defer (· - 1), .watch (· + 5) 0, .runDeferred 7,
    .pokeWatched 1, .runDeferred 8]

/-- The first of two deferred closures is never run, and goes on living. -/
theorem lifecycles_after_overtaken : ∃ s, served .checked overtaken = .ok s ∧
    Session.runDeferred .checked 9 s = .ok (0, s) ∧ Lives .checked overtaken s := by
  have hs : served .checked overtaken = .ok (reached overtaken) :=
    served_of_counts (Arithmetic.counts_of_lt (by decide))
  have hlives := (lifecycles_after .checked overtaken).lives _ hs nofun
  exact ⟨_, hs, hlives.runAgain [.defer (· + 1), .applyTwice (· * 3) 2] (· - 1)
    [.watch (· + 5) 0, .runDeferred 7, .pokeWatched 1, .runDeferred 8] rfl (by decide)
    (by decide) 9,
    hlives⟩

end Introspect.Demo
