import Introspect.Binding.Call

/-!
# What the namespace alone decides

The settings decide what is left out, how modules are called and which callbacks are handled by
hand. They have no say in the kinds of types. So the parameters of a trampoline, and all that is
known of a function before its arguments are laid out, are the same under any settings.
-/

namespace Introspect

/-- The same namespace under changed settings. -/
def Scope.under (s : Scope) (change : Config → Config) : Scope :=
  { s with config := change s.config }

end Introspect

namespace Introspect.Binding

open Naming (Locals)

theorem Trampoline.paramsFrom_under {s : Scope} (change : Config → Config) {args : List Argument} :
    ∀ {i : Nat} {l : Locals}, paramsFrom (s.under change) i l args = paramsFrom s i l args := by
  induction args with
  | nil => intro i l; rfl
  | cons a rest ih =>
      intro i l
      simp only [paramsFrom, ih]
      rfl

/-- The same callbacks, under changed settings. -/
def Env.under (e : Env) (change : Config → Config) : Env :=
  { e with scope := e.scope.under change }

namespace Analysis

/-- The same analysis, under changed settings. -/
def under (an : Analysis) (change : Config → Config) : Analysis :=
  { an with env := an.env.under change }

variable {e : Env} {f : Function} {site : Site} (change : Config → Config)

theorem pair_under (st : Analysis × Locals) (a : Argument) (i : Nat) :
    pair f (st.1.under change, st.2) a i =
      ((pair f st a i).1.under change, (pair f st a i).2) := by
  have htakes : takesClosure (st.1.under change).env a = takesClosure st.1.env a := rfl
  unfold pair
  dsimp only
  rw [htakes]
  split
  · rfl
  · split
    · rfl
    · next j _ =>
        rw [show (st.1.under change).dataOf = st.1.dataOf from rfl]
        split <;> rfl

theorem of_under :
    of (e.under change) f site = ((of e f site).1.under change, (of e f site).2) := by
  have hstart : start (e.under change) f site =
      ((start e f site).1.under change, (start e f site).2) := rfl
  unfold of
  rw [hstart]
  exact List.foldl_hom (fun st : Analysis × Locals => (st.1.under change, st.2))
    fun st x => pair_under change st x.1 x.2

end Analysis

end Introspect.Binding
