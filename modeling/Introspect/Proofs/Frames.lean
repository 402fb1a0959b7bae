import Introspect.Binding.Call
import Introspect.Native.Memory
import Introspect.Proofs.Slots
import Mathlib.Logic.Function.Basic

/-!
# Running the statements around a call

A generated function keeps variables of its own, has the slots of an out block, and shares native
memory with whomever it calls. Its statements around the call take one such frame to the next. Here
are those that a value passed by reference comes with: a text is copied, a slot is filled, the slot
is read back into the reference, and the copy is released. Closures are kept elsewhere, so a
statement about one does not run in a frame; nor does one that is ill-typed.

An expression in a slot is about one variable. How much of the variable it takes depends on what the
variable is: the value behind a reference to a number, the integer of a member of an enumeration,
the pointer of a wrapper.
-/

namespace Introspect.Binding

/-! ## Variables -/

/-- The types of host values behind a reference. -/
inductive HostType
  | cell (c : Cell)
  /-- An enumeration or a set of flags, around its integer. -/
  | bits (host : String) (c : Cell)
  /-- A struct around the pointer to an instance. -/
  | wrapper (host : String)
  | text
deriving DecidableEq

namespace HostType

/-- What there is to know of a value. -/
abbrev Value : HostType → Type
  | .cell c | .bits _ c => c.Host
  | .wrapper _ => Address
  | .text => String

/-- The type as it is written. -/
def spelled : HostType → String
  | .cell c => nativeType c
  | .bits host _ | .wrapper host => host
  | .text => "String"

/-- The expression that takes out of a reference what a slot can hold; for a text, the reference
itself. -/
def expression : HostType → String → String
  | .cell _, x => "*" ++ x
  | .bits _ _, x => x ++ ".bits()"
  | .wrapper _, x => x ++ ".p"
  | .text, x => x

/-- What a slot holds of a value; a text does not fit into one. -/
def content : (T : HostType) → T.Value → Option (Σ c : Cell, c.Host)
  | .cell c, v | .bits _ c, v => some ⟨c, v⟩
  | .wrapper _, v => some ⟨.ptr, v⟩
  | .text, _ => none

end HostType

/-- What a variable is. -/
inductive Local
  | reference (T : HostType) (v : T.Value)
  | pointer (a : Address)

namespace Local

/-- How the value of a variable is written, given its name. -/
def expression : Local → String → String
  | .reference T _, x => T.expression x
  | .pointer _, x => x

/-- The cell that the value of a variable is stored as. -/
def content : Local → Option (Σ c : Cell, c.Host)
  | .reference T v => T.content v
  | .pointer a => some ⟨.ptr, a⟩

end Local

/-- A variable's name has nothing in it that an expression puts around a variable. No identifier of
the generated language does. -/
def IsName (x : String) : Prop := '*' ∉ x.toList ∧ '.' ∉ x.toList

instance (x : String) : Decidable (IsName x) := inferInstanceAs (Decidable (_ ∧ _))

/-- The variable that an expression is about. -/
def subject (e : String) : String :=
  String.ofList ((e.toList.dropWhile (· = '*')).takeWhile (· ≠ '.'))

theorem subject_of_toList {e x : String} {taken : List Char} (hx : IsName x)
    (he : e.toList.dropWhile (· = '*') = x.toList ++ taken)
    (htaken : taken = [] ∨ taken.head? = some '.') : subject e = x := by
  have hname : ∀ c ∈ x.toList, decide (c ≠ '.') = true :=
    fun c hc => decide_eq_true fun heq => hx.2 (heq ▸ hc)
  have hrest : taken.takeWhile (· ≠ '.') = [] := by
    cases taken with
    | nil => rfl
    | cons c cs =>
        obtain rfl : c = '.' := by simpa using htaken
        rfl
  rw [subject, he, List.takeWhile_append_of_pos hname, hrest, List.append_nil, String.ofList_toList]

/-- A name does not begin with a star. -/
theorem IsName.dropWhile_append {x : String} (hx : IsName x) {taken : List Char}
    (htaken : taken = [] ∨ taken.head? = some '.') :
    (x.toList ++ taken).dropWhile (· = '*') = x.toList ++ taken := by
  cases hlist : x.toList ++ taken with
  | nil => rfl
  | cons c cs =>
      refine List.dropWhile_cons_of_neg fun hc => ?_
      obtain rfl := of_decide_eq_true hc
      cases hname : x.toList with
      | nil =>
          rw [hname, List.nil_append] at hlist
          rw [hlist] at htaken
          simp at htaken
      | cons d ds =>
          rw [hname, List.cons_append] at hlist
          have hmem : '*' ∈ x.toList := by
            rw [hname, (List.cons.inj hlist).1]
            exact List.mem_cons_self
          exact hx.1 hmem

theorem subject_name {x : String} (hx : IsName x) : subject x = x := by
  refine subject_of_toList hx ?_ (.inl rfl)
  have h := hx.dropWhile_append (.inl (rfl : [] = []))
  rwa [List.append_nil] at h ⊢

theorem subject_expression (T : HostType) {x : String} (hx : IsName x) :
    subject (T.expression x) = x := by
  cases T with
  | cell c =>
      refine subject_of_toList hx ?_ (.inl rfl)
      have h := hx.dropWhile_append (.inl (rfl : [] = []))
      rw [List.append_nil] at h ⊢
      rw [HostType.expression, String.toList_append]
      exact h
  | bits host c =>
      refine subject_of_toList hx ?_ (.inr (rfl : ".bits()".toList.head? = some '.'))
      rw [HostType.expression, String.toList_append]
      exact hx.dropWhile_append (.inr rfl)
  | wrapper host =>
      refine subject_of_toList hx ?_ (.inr (rfl : ".p".toList.head? = some '.'))
      rw [HostType.expression, String.toList_append]
      exact hx.dropWhile_append (.inr rfl)
  | text => exact subject_name hx

/-! ## Frames -/

/-- What the statements of a generated function see. -/
structure Frame where
  locals : String → Option Local := fun _ => none
  /-- The slots of the out block. -/
  places : String → Introspect.Slot := fun _ => {}
  memory : Memory := {}

namespace Frame

/-- The variable is this from now on. -/
def bind (σ : Frame) (x : String) (l : Local) : Frame :=
  { σ with locals := Function.update σ.locals x (some l) }

/-- The place holds this slot from now on. -/
def fill (σ : Frame) (place : String) (s : Introspect.Slot) : Frame :=
  { σ with places := Function.update σ.places place s }

/-- The slot that is made from a value. -/
def slot? (σ : Frame) : SlotValue → Option Introspect.Slot
  | .make c e =>
      match σ.locals (subject e) with
      | some l =>
          match l.content with
          | some ⟨c', v⟩ =>
              if l.expression (subject e) = e ∧ c' = c then some (.of c' v) else none
          | none => none
      | none => none
  | .unmapped _ => some {}

/-- The host value that is read, and the memory then. -/
def read? (σ : Frame) : SlotReading → Option ((Σ T : HostType, T.Value) × Memory)
  | .cell place c => some (⟨.cell c, (σ.places place).as c⟩, σ.memory)
  | .bits host place c => some (⟨.bits host c, (σ.places place).as c⟩, σ.memory)
  | .wrapped host place => some (⟨.wrapper host, (σ.places place).as .ptr⟩, σ.memory)
  | .text place false owned =>
      let a := (σ.places place).as .ptr
      let (s, m) := if owned then σ.memory.takeText a else (σ.memory.textAt a, σ.memory)
      some (⟨.text, s⟩, m)
  | .text _ true _ | .object .. | .array .. | .unmapped _ => none

/-- The frame after a statement; there is none where the statement cannot run. -/
def step (σ : Frame) : Statement → Option Frame
  | .copyText copy convert source =>
      match σ.locals source with
      | some (.reference .text s) =>
          if convert = "gi::c_string" then
            let (a, m) := σ.memory.putText s
            some ({ σ with memory := m }.bind copy (.pointer a))
          else none
      | _ => none
  | .free x =>
      match σ.locals x with
      | some (.pointer a) => some { σ with memory := σ.memory.release a }
      | _ => none
  | .fill place v => (σ.slot? v).map (σ.fill place)
  | .writeBack x reading =>
      match σ.locals x, σ.read? reading with
      | some (.reference T _), some (⟨T', v⟩, m) =>
          if T' = T then some ({ σ with memory := m }.bind x (.reference T' v)) else none
      | _, _ => none
  | .remark _ => some σ
  | .register .. | .unregister _ => none

/-- Runs statements in their order. -/
def run (σ : Frame) : List Statement → Option Frame
  | [] => some σ
  | st :: rest => (σ.step st).bind fun τ => τ.run rest

/-- What goes on from one frame to another leaves these variables as they are, the slot at `place`,
and the blocks that the variables point to. -/
structure Keeps (σ τ : Frame) (names : List String) (place : String) : Prop where
  locals : ∀ x ∈ names, τ.locals x = σ.locals x
  slot : τ.places place = σ.places place
  blocks : ∀ x ∈ names, ∀ a, σ.locals x = some (.pointer a) →
    τ.memory.block? a = σ.memory.block? a

/-! ### Single statements -/

theorem run_cons {σ τ : Frame} {st : Statement} (h : σ.step st = some τ) (rest : List Statement) :
    σ.run (st :: rest) = τ.run rest := by
  rw [run, h]
  rfl

theorem run_singleton {σ τ : Frame} {st : Statement} (h : σ.step st = some τ) :
    σ.run [st] = some τ := run_cons h []

theorem locals_bind_self (σ : Frame) (x : String) (l : Local) :
    (σ.bind x l).locals x = some l := by
  simp [bind]

theorem locals_bind_ne (σ : Frame) {x y : String} (h : y ≠ x) (l : Local) :
    (σ.bind x l).locals y = σ.locals y := by
  simp [bind, h]

theorem as_fill (σ : Frame) (place : String) (c : Cell) (v : c.Host) :
    ((σ.fill place (.of c v)).places place).as c = v := by
  simp only [fill, Function.update_self]
  exact Slot.as_of c v

theorem slot?_make {σ : Frame} {x e : String} {l : Local} {c : Cell} {v : c.Host}
    (hx : σ.locals x = some l) (he : subject e = x) (hl : l.expression x = e)
    (hv : l.content = some ⟨c, v⟩) : σ.slot? (.make c e) = some (.of c v) := by
  rw [slot?, he, hx]
  dsimp only
  rw [hv]
  exact if_pos ⟨hl, rfl⟩

theorem read?_text {σ : Frame} {place : String} {a : Address}
    (h : (σ.places place).as .ptr = a) (owned : Bool) :
    σ.read? (.text place false owned) =
      some (⟨.text, σ.memory.textAt a⟩, if owned then σ.memory.release a else σ.memory) := by
  subst h
  cases owned <;> rfl

theorem step_fill {σ : Frame} {place : String} {v : SlotValue} {s : Introspect.Slot}
    (h : σ.slot? v = some s) :
    σ.step (.fill place v) = some (σ.fill place s) := by
  rw [step, h]
  rfl

theorem step_copyText {σ : Frame} {copy source s : String}
    (h : σ.locals source = some (.reference .text s)) :
    σ.step (.copyText copy "gi::c_string" source) =
      some ({ σ with memory := (σ.memory.putText s).2 }.bind copy
        (.pointer (σ.memory.putText s).1)) := by
  rw [step, h]
  exact if_pos rfl

theorem step_free {σ : Frame} {x : String} {a : Address} (h : σ.locals x = some (.pointer a)) :
    σ.step (.free x) = some { σ with memory := σ.memory.release a } := by
  rw [step, h]

theorem step_writeBack {σ : Frame} {x : String} {reading : SlotReading} {T : HostType}
    {old v : T.Value} {m : Memory} (hx : σ.locals x = some (.reference T old))
    (hv : σ.read? reading = some (⟨T, v⟩, m)) :
    σ.step (.writeBack x reading) =
      some ({ σ with memory := m }.bind x (.reference T v)) := by
  rw [step, hx, hv]
  exact if_pos rfl

end Frame

end Introspect.Binding
