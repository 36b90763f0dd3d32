import Arbiter.Proofs.Engine.Run
import Arbiter.Trace
import Mathlib.Data.List.DropRight

/-!
# What a traced engine records

A traced engine with a memory sink is followed through a run beside the engine
inside it. The books of the traced engine are a function of the run of the inner
engine alone.

* `Engine.recordsSinceReset`: the records that a run of an engine deserves.
* `Recorder.holding`: the recorder that holds these records and nothing else.
* `Traced.run_holding`: a run of the traced engine is the run of the inner engine,
  together with the recorder that holds its records.
* `Traced.run_withMemory`: what follows for verdicts, records and the sink.
-/

namespace Arbiter

namespace Engine

variable {E : Type} [Engine E]

/-- The record that a step deserves: every check has one, with the verdict that it
returned. -/
def record? : Call × Reply → Option TraceRecord
  | (.check r, .verdict allowed) =>
    some ⟨r.action, (r.resource.map Urn.text).getD "", r.subject.text, r.context, allowed⟩
  | _ => none

/-- The records of the checks since the last reset, in order. -/
def recordsSinceReset (e : E) (calls : List Call) : List TraceRecord :=
  ((steps e calls).rtakeWhile fun step => !step.1.isReset).filterMap record?

def keep (records : List TraceRecord) (step : Call × Reply) : List TraceRecord :=
  if step.1.isReset then [] else records ++ (record? step).toList

theorem recordsSinceReset_concat (e : E) (calls : List Call) (call : Call) :
    recordsSinceReset e (calls ++ [call]) =
      keep (recordsSinceReset e calls) (call, (perform (run e calls) call).value) := by
  rw [recordsSinceReset, steps_concat, List.rtakeWhile_concat, keep]
  cases call.isReset with
  | true => rfl
  | false =>
    rw [if_pos (by rfl), if_neg (by decide), List.filterMap_append, recordsSinceReset]
    rfl

end Engine

/-- The entry that a memory sink keeps for a record. -/
def LogEntry.ofRecord (record : TraceRecord) : LogEntry :=
  ⟨record.message, record⟩

/-- The recorder that holds these records, and has logged them if that is wanted. -/
def Recorder.holding (settings : TraceSettings) (records : List TraceRecord) :
    Recorder MemorySink :=
  ⟨⟨if settings.logDecisions then records.map .ofRecord else []⟩, settings, records⟩

theorem TraceRecord.ofVerdict_eq (r : Request) (allowed : Bool) :
    TraceRecord.ofVerdict r allowed =
      ⟨r.action, (r.resource.map Urn.text).getD "", r.subject.text, r.context, allowed⟩ := by
  rcases r with ⟨subject, action, _ | resource, context⟩ <;> rfl

/-- Observing a verdict adds its record to those that are held. -/
theorem Recorder.observe_holding (settings : TraceSettings) (records : List TraceRecord)
    (r : Request) (allowed : Bool) :
    ((Recorder.holding settings records).observe r allowed).state =
      .holding settings (records ++ [TraceRecord.ofVerdict r allowed]) := by
  rcases settings with ⟨_ | _⟩
  · rfl
  · simp [Recorder.observe, Recorder.holding, Sink.log, Outcome.silent, LogEntry.ofRecord]

namespace Traced

variable {E : Type} [Engine E]

/-- An engine under a layer of tracing whose sink keeps every entry. -/
def withMemory (e : E) (settings : TraceSettings) : Traced E MemorySink :=
  ⟨e, .new ⟨[]⟩ settings⟩

/-- A call to a traced engine is the same call to the engine inside, and the recorder
keeps the record of the step, if it deserves one. -/
theorem perform_holding (e : E) (settings : TraceSettings) (records : List TraceRecord)
    (call : Engine.Call) :
    let traced : Traced E MemorySink := ⟨e, .holding settings records⟩
    (Engine.perform traced call).value = (Engine.perform e call).value ∧
      (Engine.perform traced call).state =
        ⟨(Engine.perform e call).state,
          .holding settings (Engine.keep records (call, (Engine.perform e call).value))⟩ := by
  cases call with
  | check r =>
    refine ⟨rfl, ?_⟩
    have observed := Recorder.observe_holding settings records r (Engine.check e r).value
    rw [TraceRecord.ofVerdict_eq] at observed
    exact congrArg (Traced.mk (Engine.check e r).state) observed
  | addPolicy g conditions =>
    refine ⟨rfl, ?_⟩
    have kept : Engine.keep records
        (.addPolicy g conditions, (Engine.perform e (.addPolicy g conditions)).value) = records :=
      List.append_nil records
    rw [kept]
    rfl
  | reset =>
    refine ⟨rfl, ?_⟩
    rcases settings with ⟨_ | _⟩ <;> rfl

/-- A run of a traced engine is the run of the engine inside, together with the records
that it deserves. -/
theorem run_holding (e : E) (settings : TraceSettings) (calls : List Engine.Call) :
    Engine.replies (withMemory e settings) calls = Engine.replies e calls ∧
      Engine.run (withMemory e settings) calls =
        ⟨Engine.run e calls, .holding settings (Engine.recordsSinceReset e calls)⟩ := by
  induction calls using List.reverseRecOn with
  | nil =>
    refine ⟨rfl, ?_⟩
    rcases settings with ⟨_ | _⟩ <;> rfl
  | append_singleton calls call ih =>
    obtain ⟨replies, after⟩ := ih
    have step := perform_holding (Engine.run e calls) settings
      (Engine.recordsSinceReset e calls) call
    rw [Engine.replies_concat, Engine.replies_concat, Engine.run_concat, Engine.run_concat,
      Engine.recordsSinceReset_concat, after, replies, step.1, step.2]
    exact ⟨rfl, rfl⟩

/-- Layers agree: a layer around a traced engine deserves the records of the layer inside. -/
theorem recordsSinceReset_withMemory (e : E) (settings : TraceSettings)
    (calls : List Engine.Call) :
    Engine.recordsSinceReset (withMemory e settings) calls =
      Engine.recordsSinceReset e calls := by
  have replies := (run_holding e settings calls).1
  rw [Engine.recordsSinceReset, Engine.steps, replies, Engine.recordsSinceReset, Engine.steps]

/-- **Tracing is transparent, and records every decision.** A traced engine answers every
call of a run as the engine inside would on its own, and leaves it in the same state. Its
records are those of the checks since the last reset, and its sink has logged exactly
these if decisions are to be logged, and nothing otherwise. The setting decides about the
sink only, and adding a policy leaves the books as they are. -/
theorem run_withMemory (e : E) (settings : TraceSettings) (calls : List Engine.Call) :
    let traced := Engine.run (withMemory e settings) calls
    let records := Engine.recordsSinceReset e calls
    Engine.replies (withMemory e settings) calls = Engine.replies e calls ∧
      traced.inner = Engine.run e calls ∧
      traced.recorder.traces = records ∧
      traced.recorder.sink.entries =
        (if settings.logDecisions then records.map fun r => ⟨r.message, r⟩ else []) ∧
      (∀ other : TraceSettings,
        Engine.replies (withMemory e other) calls = Engine.replies (withMemory e settings) calls ∧
          (Engine.run (withMemory e other) calls).recorder.traces = traced.recorder.traces) ∧
      ∀ (g : Grant) (conditions : Option Conditions),
        (Engine.addPolicy traced g conditions).state.recorder = traced.recorder := by
  obtain ⟨replies, after⟩ := run_holding e settings calls
  dsimp only
  rw [after]
  refine ⟨replies, rfl, rfl, rfl, fun other => ?_, fun g conditions => rfl⟩
  obtain ⟨otherReplies, otherAfter⟩ := run_holding e other calls
  rw [otherReplies, replies, otherAfter]
  exact ⟨rfl, rfl⟩

end Traced

end Arbiter
