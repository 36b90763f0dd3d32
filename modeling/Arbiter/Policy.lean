import Arbiter.Effect
import Arbiter.Request
import Arbiter.Targets

/-!
# Policies

A grant is a policy as it is written: an effect and the globs of its three
dimensions, each of which may be left open. A policy is a grant with its globs
made ready for matching.

* `Grant.policy` makes the policy of a grant.
* `Policy.covers`: in every dimension some pattern accepts the request's text.
-/

namespace Arbiter

structure Grant where
  effect : Effect
  subjects : Option Targets
  actions : Option Targets
  resources : Option Targets
  deriving DecidableEq

structure Policy where
  effect : Effect
  subjects : List Pattern
  actions : List Pattern
  resources : List Pattern
  deriving DecidableEq

def Grant.policy [Glob.SizeLimit] (g : Grant) : Policy :=
  ⟨g.effect, Targets.patterns g.subjects, Targets.patterns g.actions,
    Targets.patterns g.resources⟩

namespace Policy

def anyAccepts (patterns : List Pattern) (text : String) : Bool :=
  patterns.any (·.accepts text)

def covers (p : Policy) (a : Access) : Bool :=
  anyAccepts p.subjects a.subject && anyAccepts p.actions a.action &&
    anyAccepts p.resources a.resource

/-- All patterns, in the order in which they are made. -/
def patterns (p : Policy) : List Pattern :=
  p.subjects ++ p.actions ++ p.resources

theorem anyAccepts_eq_true_iff {patterns : List Pattern} {text : String} :
    anyAccepts patterns text = true ↔ ∃ p ∈ patterns, p.accepts text = true := by
  simp [anyAccepts]

end Policy

end Arbiter
