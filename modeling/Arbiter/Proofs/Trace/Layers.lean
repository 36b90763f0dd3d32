import Arbiter.Proofs.Engine.Run
import Arbiter.Trace.Tower

/-!
# Layers of tracing

However many layers of tracing there are around an engine, it is the engine that answers.
The layers keep books, and the settings of these never change.

* `Tower.settings`: the settings of all layers.
* `Tower.perform_core`: a call to a tower is a call to the engine under its layers.
* `Tower.onCore`: an operation on that engine itself, past the layers.
-/

namespace Arbiter

theorem Recorder.observe_settings {S : Type} [Sink S] (b : Recorder S) (r : Request)
    (verdict : Bool) : (b.observe r verdict).state.settings = b.settings := by
  unfold observe
  dsimp only
  split <;> rfl

namespace Traced

variable {E S : Type} [Engine E] [Sink S]

/-- One layer passes every call on. -/
theorem perform_inner (t : Traced E S) (call : Engine.Call) :
    (Engine.perform t call).value = (Engine.perform t.inner call).value ∧
      (Engine.perform t call).state.inner = (Engine.perform t.inner call).state ∧
      (Engine.perform t call).state.recorder.settings = t.recorder.settings := by
  cases call with
  | check r => exact ⟨rfl, rfl, t.recorder.observe_settings r _⟩
  | addPolicy g conditions => exact ⟨rfl, rfl, rfl⟩
  | reset => exact ⟨rfl, rfl, rfl⟩

end Traced

namespace Tower

variable {E S α : Type}

/-- The settings of all layers, outermost first. -/
def settings {height : Nat} (t : Tower E S height) : List TraceSettings :=
  t.recorders.map Recorder.settings

/-- A call to a tower is a call to the engine under all layers. -/
theorem perform_core [Engine E] [Sink S] {height : Nat} (t : Tower E S height)
    (call : Engine.Call) :
    (Engine.perform t call).value = (Engine.perform t.core call).value ∧
      (Engine.perform t call).state.core = (Engine.perform t.core call).state ∧
      (Engine.perform t call).state.settings = t.settings := by
  induction height with
  | zero => exact ⟨rfl, rfl, rfl⟩
  | succ height ih =>
    obtain ⟨value, state, own⟩ := Traced.perform_inner (E := Tower E S height) t call
    obtain ⟨inner, core, settings⟩ := ih t.inner
    refine ⟨value.trans inner, (congrArg Tower.core state).trans core, ?_⟩
    have below := (congrArg (fun inner : Tower E S height => inner.settings) state).trans settings
    exact List.cons_eq_cons.mpr ⟨own, below⟩

/-- An operation on the engine under all layers, which do not see it. -/
def onCore (f : E → Outcome E α) : {height : Nat} → Tower E S height →
    Outcome (Tower E S height) α
  | 0, e => f e
  | _ + 1, (t : Traced _ S) => (onCore f t.inner).mapState fun inner => ⟨inner, t.recorder⟩

theorem onCore_core (f : E → Outcome E α) {height : Nat} (t : Tower E S height) :
    (t.onCore f).value = (f t.core).value ∧ (t.onCore f).state.core = (f t.core).state ∧
      (t.onCore f).state.settings = t.settings := by
  induction height with
  | zero => exact ⟨rfl, rfl, rfl⟩
  | succ height ih =>
    obtain ⟨value, state, settings⟩ := ih t.inner
    exact ⟨value, state, congrArg (t.recorder.settings :: ·) settings⟩

end Tower

end Arbiter
