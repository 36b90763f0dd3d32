import Arbiter.Store
import Arbiter.Voter

/-!
# Stock voters

Voters that come with the library: one that always casts the same vote, one
without any policy handling of its own, and voters that decide by a rule and
keep books of what they are asked.

* `Rule`: how a bookkeeping voter votes.
* `Admission`: what it does with the policies submitted to it.
* `StockVoter`: any of the three, with its `Voter` instance.
-/

namespace Arbiter

inductive Rule where
  | always (vote : Vote)
  | subjectClass (className : String)
  | needsResource
  /-- Grants or denies by a context value, if it is there. -/
  | contextHolds (name value : String)
  /-- Votes as the policies submitted to it answer. -/
  | policies (store : Store)

namespace Rule

def vote : Rule → Request → Vote
  | .always vote, _ => vote
  | .subjectClass className, r => if r.subject.className = className then .granted else .abstain
  | .needsResource, r => if r.resource.isSome then .abstain else .denied
  | .contextHolds name value, r =>
    match r.context.get? name with
    | none => .abstain
    | some entry => if entry.holds value then .granted else .denied
  | .policies store, r => .ofEvaluation (store.evaluate r.access)

def report : Rule → Request → List Event
  | .policies store, r => store.report r.access
  | _, _ => []

/-- Takes in an accepted policy. Only the rule that votes by policies uses it. -/
def take [Glob.SizeLimit] : Rule → Submission → Rule
  | .policies store, s => .policies (store.add s.grant)
  | rule, _ => rule

def refusals [Glob.SizeLimit] : Rule → Submission → List Event
  | .policies _, s => s.grant.policy.refusals
  | _, _ => []

end Rule

inductive Admission where
  | closed
  | recording
  | unsupported (reason : String)
  | failing (reason : String)
  deriving DecidableEq

/-- A voter that decides by a rule and keeps books of what it is asked. -/
structure Bookkeeper where
  rule : Rule
  admission : Admission
  calls : Nat
  /-- The policies that it has recorded, in order. -/
  recorded : List Submission
  resets : Nat

namespace Bookkeeper

def new (rule : Rule) (admission : Admission) : Bookkeeper :=
  ⟨rule, admission, 0, [], 0⟩

instance [Glob.SizeLimit] : Voter Bookkeeper where
  vote v r := ⟨v.rule.vote r, { v with calls := v.calls + 1 }, v.rule.report r⟩
  acceptsPolicies v := v.admission != .closed
  submit v s :=
    match v.admission with
    | .recording =>
      ⟨.ok (), { v with rule := v.rule.take s, recorded := v.recorded ++ [s] }, v.rule.refusals s⟩
    | .unsupported reason => .silent v (.error (.unsupported reason))
    | .failing reason => .silent v (.error (.voter reason))
    | .closed => .silent v (.error Submission.notHandled)
  reset v := { v with resets := v.resets + 1 }

end Bookkeeper

structure StaticVoter where
  vote : Vote
  deriving DecidableEq

instance : Voter StaticVoter where
  vote v _ := .silent v v.vote

/-- A voter that takes policies and leaves everything but its vote as it is by
default, so it honours none. -/
structure DefaultVoter where
  vote : Vote
  calls : Nat
  deriving DecidableEq

instance : Voter DefaultVoter where
  vote v _ := .silent { v with calls := v.calls + 1 } v.vote
  acceptsPolicies _ := true

inductive StockVoter where
  | static (voter : StaticVoter)
  | default (voter : DefaultVoter)
  | bookkeeper (voter : Bookkeeper)

namespace StockVoter

def calls : StockVoter → Nat
  | .static _ => 0
  | .default v => v.calls
  | .bookkeeper v => v.calls

def recorded : StockVoter → List Submission
  | .bookkeeper v => v.recorded
  | _ => []

def resets : StockVoter → Nat
  | .bookkeeper v => v.resets
  | _ => 0

instance [Glob.SizeLimit] : Voter StockVoter where
  vote
    | .static v, r => (Voter.vote v r).mapState .static
    | .default v, r => (Voter.vote v r).mapState .default
    | .bookkeeper v, r => (Voter.vote v r).mapState .bookkeeper
  acceptsPolicies
    | .static v => Voter.acceptsPolicies v
    | .default v => Voter.acceptsPolicies v
    | .bookkeeper v => Voter.acceptsPolicies v
  submit
    | .static v, s => (Voter.submit v s).mapState .static
    | .default v, s => (Voter.submit v s).mapState .default
    | .bookkeeper v, s => (Voter.submit v s).mapState .bookkeeper
  reset
    | .static v => .static (Voter.reset v)
    | .default v => .default (Voter.reset v)
    | .bookkeeper v => .bookkeeper (Voter.reset v)

end StockVoter

end Arbiter
