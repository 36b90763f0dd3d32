import Arbiter.Event

/-!
# Voters and engines

A voter is an independent source of decisions. It may change its own state when
it is asked, and it may accept policies. An engine decides requests, and may take
policies too.

* `PolicyError`: why a policy could not be added.
* `Submission`: a policy as voters receive it, every dimension named.
* `Voter`: what a chain needs to know of its voters.
* `Engine`: what all engines have in common.
* `FixedEngine`: an engine with a single verdict.
-/

namespace Arbiter

/-- Why a policy could not be added. -/
inductive PolicyError where
  /-- Nobody is able to honour the policy. -/
  | unsupported (reason : String)
  /-- A voter failed for another reason. -/
  | voter (reason : String)
  deriving DecidableEq

namespace PolicyError

def message : PolicyError → String
  | .unsupported reason => "Unsupported operation: " ++ reason
  | .voter reason => "Voter error: " ++ reason

/-- Whether the error only says that the policy is not supported. -/
def isUnsupported : PolicyError → Bool
  | .unsupported _ => true
  | .voter _ => false

end PolicyError

/-! ## Voters -/

/-- A policy as voters receive it. An open dimension has become the label `**`,
and absent conditions have become no conditions. -/
structure Submission where
  effect : Effect
  subjects : Targets
  actions : Targets
  resources : Targets
  conditions : Conditions

namespace Submission

def ofGrant (g : Grant) (conditions : Option Conditions) : Submission :=
  ⟨g.effect, Targets.orAny g.subjects, Targets.orAny g.actions, Targets.orAny g.resources,
    conditions.getD []⟩

/-- The grant of a submission. The label `**` is an open dimension again, as a glob
it would stay within one segment. -/
def grant (s : Submission) : Grant :=
  ⟨s.effect, Targets.ofLabel s.subjects, Targets.ofLabel s.actions, Targets.ofLabel s.resources⟩

/-- What a voter that handles no policies answers. -/
def notHandled : PolicyError :=
  .unsupported "voter does not support adding policies"

end Submission

class Voter (V : Type) where
  vote : V → Request → Outcome V Vote
  /-- Whether policies may be submitted at all. -/
  acceptsPolicies : V → Bool := fun _ => false
  /-- Submits a policy. It fails as unsupported if the voter cannot honour it. -/
  submit : V → Submission → Outcome V (Except PolicyError Unit) := fun v _ =>
    .silent v (.error Submission.notHandled)
  /-- Forgets what belongs to a session. -/
  reset : V → V := id

/-! ## Engines -/

class Engine (E : Type) where
  check : E → Request → Outcome E Bool
  /-- Adds a policy, with conditions if there are any. -/
  addPolicy : E → Grant → Option Conditions → Outcome E (Except PolicyError Unit)
  /-- Forgets what belongs to a session. -/
  reset : E → E := id

/-- An engine that decides every request alike and takes no policies. -/
structure FixedEngine where
  verdict : Bool
  deriving DecidableEq

instance : Engine FixedEngine where
  check e _ := .silent e e.verdict
  addPolicy e _ _ := .silent e (.error (.voter "fixed"))

end Arbiter
