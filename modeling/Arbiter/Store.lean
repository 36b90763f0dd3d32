import Arbiter.Event

/-!
# Policy stores

A store is an ordered list of policies. The first policy that covers a request
decides it.

* `Store.firstCovering?`: that policy, with its position.
* `Store.evaluate`: its effect, if there is one.
* `Store.report`: the events of an evaluation.
-/

namespace Arbiter

/-- Policies in the order in which they were registered. -/
structure Store where
  policies : List Policy
  deriving DecidableEq

namespace Store

def empty : Store := ⟨[]⟩

/-- Registers a policy behind all others. -/
def push (s : Store) (p : Policy) : Store :=
  ⟨s.policies ++ [p]⟩

def add [Glob.SizeLimit] (s : Store) (g : Grant) : Store :=
  s.push g.policy

/-- Drops all policies. -/
def clear (_ : Store) : Store :=
  empty

def size (s : Store) : Nat :=
  s.policies.length

def isEmpty (s : Store) : Bool :=
  s.policies.isEmpty

/-- The first policy that covers the request, with its position. -/
def firstCovering? (s : Store) (a : Access) : Option (Policy × Nat) :=
  s.policies.zipIdx.find? fun entry => entry.1.covers a

def evaluate (s : Store) (a : Access) : Evaluation :=
  match s.firstCovering? a with
  | some (p, _) => .ofEffect p.effect
  | none => .noMatch

def report (s : Store) (a : Access) : List Event :=
  match s.firstCovering? a with
  | some (p, position) => [.policyCovers position p.effect a]
  | none => []

end Store

end Arbiter
