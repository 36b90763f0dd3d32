import Arbiter.Voter

/-!
# Runs of an engine

A run is a list of calls to one engine. Each call meets the engine that the calls
before it have left.

* `Engine.perform`: a single call.
* `Engine.run` and `Engine.replies`: the engine that a run leaves, and what each
  of its calls returned.
* `Engine.run_concat` and `Engine.replies_concat`: a run grows at its end by what
  the last call does to the engine that the calls before it have left.
-/

namespace Arbiter

def Outcome.mapValue {σ α β : Type} (f : α → β) (o : Outcome σ α) : Outcome σ β :=
  ⟨f o.value, o.state, o.events⟩

namespace Engine

inductive Call where
  | check (r : Request)
  | addPolicy (g : Grant) (conditions : Option Conditions)
  | reset

inductive Reply where
  | verdict (allowed : Bool)
  | added (result : Except PolicyError Unit)
  | done

def Call.isReset : Call → Bool
  | .reset => true
  | _ => false

variable {E : Type} [Engine E]

def perform (e : E) : Call → Outcome E Reply
  | .check r => (check e r).mapValue .verdict
  | .addPolicy g conditions => (addPolicy e g conditions).mapValue .added
  | .reset => .silent (reset e) .done

/-- The engine after a run. -/
def run (e : E) (calls : List Call) : E :=
  calls.foldl (fun e call => (perform e call).state) e

/-- What the calls of a run return. -/
def replies (e : E) : List Call → List Reply
  | [] => []
  | call :: calls =>
    let made := perform e call
    made.value :: replies made.state calls

theorem run_concat (e : E) (calls : List Call) (call : Call) :
    run e (calls ++ [call]) = (perform (run e calls) call).state := by
  rw [run, List.foldl_append]
  rfl

theorem replies_concat (e : E) (calls : List Call) (call : Call) :
    replies e (calls ++ [call]) =
      replies e calls ++ [(perform (run e calls) call).value] := by
  induction calls generalizing e with
  | nil => rfl
  | cons first calls ih =>
    rw [List.cons_append, replies, replies, ih, List.cons_append]
    rfl

theorem length_replies (e : E) (calls : List Call) :
    (replies e calls).length = calls.length := by
  induction calls generalizing e with
  | nil => rfl
  | cons first calls ih => rw [replies, List.length_cons, ih, List.length_cons]

/-- The calls of a run, each with what it returned. -/
def steps (e : E) (calls : List Call) : List (Call × Reply) :=
  calls.zip (replies e calls)

theorem steps_concat (e : E) (calls : List Call) (call : Call) :
    steps e (calls ++ [call]) =
      steps e calls ++ [(call, (perform (run e calls) call).value)] := by
  rw [steps, replies_concat, List.zip_append (length_replies e calls).symm]
  rfl

end Engine

end Arbiter
