/-!
# Settings

The settings of tracing and of the test double. Each of them is on unless it is
turned off.
-/

namespace Arbiter

structure TraceSettings where
  /-- Every decision is also sent to the sink. -/
  logDecisions : Bool := true
  deriving DecidableEq

structure TestingSettings where
  /-- The verdict in scopes for which nothing is registered. -/
  defaultAllow : Bool := true
  /-- The list of checked actions is kept. -/
  recordCheckedActions : Bool := true
  deriving DecidableEq

structure Settings where
  trace : TraceSettings := {}
  testing : TestingSettings := {}
  deriving DecidableEq

/-- The settings of tracing, when each switch is looked up by its name and its place
among the switches of the section. -/
def TraceSettings.ofSwitches? (switch? : String → Nat → Option Bool) : Option TraceSettings := do
  return { logDecisions := ← switch? "log_decisions" 0 }

/-- The settings of the test double, when each switch is looked up by its name and
its place among the switches of the section. -/
def TestingSettings.ofSwitches? (switch? : String → Nat → Option Bool) :
    Option TestingSettings := do
  return {
    defaultAllow := ← switch? "default_allow" 0
    recordCheckedActions := ← switch? "record_checked_actions" 1 }

namespace Settings

def switchText (on : Bool) : String :=
  if on then "true" else "false"

/-- The settings as a document, every one of them written out. -/
def document (s : Settings) : String :=
  "[trace]\nlog_decisions = " ++ switchText s.trace.logDecisions ++
    "\n\n[testing]\ndefault_allow = " ++ switchText s.testing.defaultAllow ++
    "\nrecord_checked_actions = " ++ switchText s.testing.recordCheckedActions ++ "\n"

end Settings

end Arbiter
