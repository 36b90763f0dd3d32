import Arbiter.Trace

/-!
# Towers

An engine under any number of layers of tracing. Layers are counted from the
outermost inwards.

* `Tower`: the type of an engine under `n` layers.
* `Tower.recorders`: the books of all layers.
* `Tower.core`: the engine under all layers.
-/

namespace Arbiter

/-- An engine under a number of layers of tracing. -/
def Tower (E S : Type) : Nat → Type
  | 0 => E
  | height + 1 => Traced (Tower E S height) S

namespace Tower

variable {E S : Type}

/-- A tower decides as an engine does, layer by layer. -/
instance engine [Engine E] [Sink S] : (height : Nat) → Engine (Tower E S height)
  | 0 => inferInstanceAs (Engine E)
  | height + 1 =>
    have := engine height
    inferInstanceAs (Engine (Traced (Tower E S height) S))

/-- The books of all layers, outermost first. -/
def recorders : {height : Nat} → Tower E S height → List (Recorder S)
  | 0, _ => []
  | _ + 1, (t : Traced _ S) => t.recorder :: recorders t.inner

def core : {height : Nat} → Tower E S height → E
  | 0, e => e
  | _ + 1, (t : Traced _ S) => core t.inner

theorem length_recorders {height : Nat} (t : Tower E S height) :
    t.recorders.length = height := by
  induction height with
  | zero => rfl
  | succ height ih => exact congrArg (· + 1) (ih t.inner)

end Tower

end Arbiter
