import Arbiter.Event

/-!
# Sinks

A sink receives a line and a record for every logged decision.

* `MemorySink` keeps them, `EventSink` reports them as events, and
  `CountingSink` only counts them.
* `StockSink`: any of the three, with its `Sink` instance.
-/

namespace Arbiter

/-- What tracing needs to know of its sinks. -/
class Sink (S : Type) where
  /-- Logs a line with the record that it describes. -/
  log : S → String → TraceRecord → Outcome S Unit
  /-- Drops what the sink has kept, if it keeps anything. -/
  clear : S → S := id

structure LogEntry where
  message : String
  record : TraceRecord
  deriving DecidableEq

/-- A sink that keeps every entry until it is cleared. -/
structure MemorySink where
  entries : List LogEntry
  deriving DecidableEq

instance : Sink MemorySink where
  log s message record := .silent ⟨s.entries ++ [⟨message, record⟩]⟩ ()
  clear _ := ⟨[]⟩

/-- A sink that reports every record as an event. -/
structure EventSink where
  deriving DecidableEq

instance : Sink EventSink where
  log s _ record := ⟨(), s, [.decision record]⟩

/-- A sink that counts what it is sent. Clearing does not concern it. -/
structure CountingSink where
  count : Nat
  deriving DecidableEq

instance : Sink CountingSink where
  log s _ _ := .silent ⟨s.count + 1⟩ ()

inductive StockSink where
  | memory (sink : MemorySink)
  | events (sink : EventSink)
  | counting (sink : CountingSink)
  deriving DecidableEq

namespace StockSink

instance : Sink StockSink where
  log
    | .memory s, message, record => (Sink.log s message record).mapState .memory
    | .events s, message, record => (Sink.log s message record).mapState .events
    | .counting s, message, record => (Sink.log s message record).mapState .counting
  clear
    | .memory s => .memory (Sink.clear s)
    | .events s => .events (Sink.clear s)
    | .counting s => .counting (Sink.clear s)

def entries? : StockSink → Option (List LogEntry)
  | .memory s => some s.entries
  | _ => none

end StockSink

end Arbiter
