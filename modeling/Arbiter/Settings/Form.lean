import Arbiter.Json.Form
import Arbiter.Settings

/-!
# JSON forms of settings

Every section of the settings is written as an object with all its fields. It is
read from an object, in which fields may be left out and others do not matter,
or from a list of its fields in their order, of which the last may be left out.
-/

namespace Arbiter

/-- How the switches of a section with so many of them are looked up in a value. One
that is not there is on. -/
def Json.switches? (size : Nat) : Json → Option (String → Nat → Option Bool)
  | .obj members => some fun name _ =>
    match members.lookup name with
    | none => some true
    | some value => value.bool?
  | .arr elements =>
    if elements.length ≤ size then
      some fun _ place =>
        match elements[place]? with
        | none => some true
        | some value => value.bool?
    else none
  | _ => none

namespace TraceSettings

def toJson (s : TraceSettings) : Json :=
  .obj [("log_decisions", .bool s.logDecisions)]

def ofJson? (v : Json) : Option TraceSettings := do
  ofSwitches? (← v.switches? 1)

def form : Form TraceSettings := ⟨toJson, Form.ofOption ofJson?⟩

end TraceSettings

namespace TestingSettings

def toJson (s : TestingSettings) : Json :=
  .obj [
    ("default_allow", .bool s.defaultAllow),
    ("record_checked_actions", .bool s.recordCheckedActions)]

def ofJson? (v : Json) : Option TestingSettings := do
  ofSwitches? (← v.switches? 2)

def form : Form TestingSettings := ⟨toJson, Form.ofOption ofJson?⟩

end TestingSettings

namespace Settings

def toJson (s : Settings) : Json :=
  .obj [("trace", s.trace.toJson), ("testing", s.testing.toJson)]

/-- A section that may be left out, for its defaults. -/
def optional {α : Type} (default : α) (read : Json → Option α) : Option Json → Option α
  | none => some default
  | some v => read v

def ofJson? : Json → Option Settings
  | .obj members => do
    return {
      trace := ← optional {} TraceSettings.ofJson? (members.lookup "trace")
      testing := ← optional {} TestingSettings.ofJson? (members.lookup "testing") }
  | .arr elements =>
    if elements.length ≤ 2 then do
      return {
        trace := ← optional {} TraceSettings.ofJson? elements[0]?
        testing := ← optional {} TestingSettings.ofJson? elements[1]? }
    else none
  | _ => none

def form : Form Settings := ⟨toJson, Form.ofOption ofJson?⟩

end Settings

end Arbiter
