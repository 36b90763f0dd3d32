import Arbiter.Policy

/-!
# Diagnostic events

What the engines report while they work. Events are values, in the order in
which they happen; `Event.severity` and `Event.message` say how each one reads.

* `Outcome`: the result of an operation, the state after it, and the events that
  it caused.
-/

namespace Arbiter

/-- How much an event matters. -/
inductive Severity where
  | debug
  | info
  | warn
  deriving DecidableEq

def Severity.text : Severity → String
  | .debug => "DEBUG"
  | .info => "INFO"
  | .warn => "WARN"

/-- Something worth reporting. -/
inductive Event where
  /-- The expression of a glob was refused, and the glob is compared as it stands. -/
  | patternRefused (glob : String)
  /-- A stored policy decided a request. -/
  | policyCovers (position : Nat) (effect : Effect) (access : Access)
  /-- A voter decided a request. -/
  | voterDecided (position : Nat) (vote : Vote) (action : String) (subject : Urn)
  /-- No voter decided a request. -/
  | allAbstained (voters : Nat) (action : String)
  /-- A voter could not honour a policy. -/
  | policyDeclined (effect : Effect) (reason : String)
  /-- A policy went out to all capable voters. -/
  | policyAdded (effect : Effect) (subjects actions resources : Targets) (voters : Nat)
  /-- A test double was used outside of any scope. -/
  | usedOutsideScope
  /-- None of a scope's policies covers a request. -/
  | noTestPolicy (action scope : String)
  /-- A decision was recorded. -/
  | decision (record : TraceRecord)
  deriving DecidableEq

namespace Event

def severity : Event → Severity
  | .patternRefused _ => .warn
  | .usedOutsideScope => .warn
  | .policyAdded .. => .info
  | _ => .debug

def message : Event → String
  | .patternRefused glob =>
    "Glob '" ++ glob ++ "' rejected by regex engine (...), using literal match"
  | .policyCovers position effect a =>
    "Policy #" ++ toString position ++ " (" ++ effect.text ++ ") matches subject=" ++
      a.subject ++ ", action=" ++ a.action ++ ", resource=" ++ a.resource
  | .voterDecided position vote action subject =>
    "Voter #" ++ toString position ++ " decided " ++ vote.text ++ " for action=" ++ action ++
      ", subject=" ++ subject.text
  | .allAbstained voters action =>
    "All " ++ toString voters ++ " voters abstained on action=" ++ action ++ ", denying"
  | .policyDeclined effect reason =>
    "Voter declined " ++ effect.text ++ " policy: " ++ reason
  | .policyAdded effect subjects actions resources voters =>
    "Added " ++ effect.text ++ " policy for subjects=" ++ Text.quotedList subjects ++
      ", actions=" ++ Text.quotedList actions ++ ", resources=" ++ Text.quotedList resources ++
      " to " ++ toString voters ++ " voter(s)"
  | .usedOutsideScope => "Test policy checker has been used in non-test environment."
  | .noTestPolicy action scope =>
    "No test policy matches action=" ++ action ++ " in scope " ++ scope
  | .decision record => record.message

/-- The record that an event carries along. -/
def record? : Event → Option TraceRecord
  | .decision record => some record
  | _ => none

end Event

/-- The events of making a pattern. -/
def Pattern.refusals (p : Pattern) : List Event :=
  if p.isVerbatim then [.patternRefused p.glob] else []

/-- The events of making a policy, pattern by pattern. -/
def Policy.refusals (p : Policy) : List Event :=
  p.patterns.flatMap Pattern.refusals

/-- The result of an operation, the state that it leaves, and its events in
order. -/
structure Outcome (σ α : Type) where
  value : α
  state : σ
  events : List Event

namespace Outcome

/-- An operation without events. -/
def silent {σ α : Type} (state : σ) (value : α) : Outcome σ α :=
  ⟨value, state, []⟩

/-- The same outcome of a larger whole. -/
def mapState {σ τ α : Type} (f : σ → τ) (o : Outcome σ α) : Outcome τ α :=
  ⟨o.value, f o.state, o.events⟩

end Outcome

end Arbiter
