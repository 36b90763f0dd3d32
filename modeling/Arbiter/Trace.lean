import Arbiter.Voter
import Arbiter.Settings
import Arbiter.Trace.Sink

/-!
# Traced engines

A traced engine answers as the engine inside it does, and keeps a record of
every decision until it is reset. It is an engine itself, so engines can be
traced more than once.

* `Recorder`: the books of one layer of tracing.
* `Traced`: an engine with a recorder around it.
-/

namespace Arbiter

/-- The books of one layer of tracing. -/
structure Recorder (S : Type) where
  sink : S
  settings : TraceSettings
  /-- The records since the last reset, in order. -/
  traces : List TraceRecord

namespace Recorder

variable {S : Type} [Sink S]

def new (sink : S) (settings : TraceSettings) : Recorder S :=
  ⟨sink, settings, []⟩

/-- Keeps the record of a verdict, and logs it if that is wanted. -/
def observe (b : Recorder S) (r : Request) (verdict : Bool) : Outcome (Recorder S) Unit :=
  let record := TraceRecord.ofVerdict r verdict
  if b.settings.logDecisions then
    let logged := Sink.log b.sink record.message record
    ⟨(), ⟨logged.state, b.settings, b.traces ++ [record]⟩, logged.events⟩
  else
    .silent ⟨b.sink, b.settings, b.traces ++ [record]⟩ ()

/-- Drops all records, and what the sink has kept. -/
def clear (b : Recorder S) : Recorder S :=
  ⟨Sink.clear b.sink, b.settings, []⟩

end Recorder

/-- An engine with a recorder around it. -/
structure Traced (E S : Type) where
  inner : E
  recorder : Recorder S

namespace Traced

variable {E S : Type} [Engine E] [Sink S]

/-- Decides as the inner engine does, and records the verdict. -/
def check (t : Traced E S) (r : Request) : Outcome (Traced E S) Bool :=
  let decided := Engine.check t.inner r
  let recorded := t.recorder.observe r decided.value
  ⟨decided.value, ⟨decided.state, recorded.state⟩, decided.events ++ recorded.events⟩

def addPolicy (t : Traced E S) (g : Grant) (conditions : Option Conditions) :
    Outcome (Traced E S) (Except PolicyError Unit) :=
  (Engine.addPolicy t.inner g conditions).mapState fun inner => ⟨inner, t.recorder⟩

def reset (t : Traced E S) : Traced E S :=
  ⟨Engine.reset t.inner, t.recorder.clear⟩

instance : Engine (Traced E S) where
  check := check
  addPolicy := addPolicy
  reset := reset

end Traced

end Arbiter
