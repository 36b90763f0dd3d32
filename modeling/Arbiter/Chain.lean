import Arbiter.Voter

/-!
# Voter chains

A chain asks its voters in order. The first vote that is not an abstention
decides, and a request on which all abstain is denied. A policy goes out to all
voters that accept policies.

* `Chain.poll`: asks voters until one decides.
* `Chain.submitAll`: hands a policy to every voter that accepts policies, until
  one fails for another reason than lack of support.
-/

namespace Arbiter

/-- Voters in the order in which they are asked. -/
structure Chain (V : Type) where
  voters : List V

namespace Chain

variable {V : Type} [Voter V]

def size (c : Chain V) : Nat :=
  c.voters.length

def isEmpty (c : Chain V) : Bool :=
  c.voters.isEmpty

/-- Asks voters, the first of them at the given position, until one decides. The
voters behind it are not asked. -/
def poll (r : Request) (position : Nat) : List V → Outcome (List V) (Option Bool)
  | [] => .silent [] none
  | v :: rest =>
    let asked := Voter.vote v r
    match asked.value.verdict? with
    | some verdict =>
      ⟨some verdict, asked.state :: rest,
        asked.events ++ [.voterDecided position asked.value r.action r.subject]⟩
    | none =>
      let later := poll r (position + 1) rest
      ⟨later.value, asked.state :: later.state, asked.events ++ later.events⟩

def check (c : Chain V) (r : Request) : Outcome (Chain V) Bool :=
  let polled := poll r 0 c.voters
  match polled.value with
  | some verdict => ⟨verdict, ⟨polled.state⟩, polled.events⟩
  | none => ⟨false, ⟨polled.state⟩, polled.events ++ [.allAbstained c.voters.length r.action]⟩

/-- Hands a policy to every voter that accepts policies, and counts them. A voter
that cannot honour the policy is passed over; any other failure ends the round,
and the voters behind are left as they are. -/
def submitAll (s : Submission) : List V → Outcome (List V) (Except PolicyError Nat)
  | [] => .silent [] (.ok 0)
  | v :: rest =>
    if Voter.acceptsPolicies v then
      let given := Voter.submit v s
      match given.value with
      | .ok () =>
        let later := submitAll s rest
        ⟨later.value.map (· + 1), given.state :: later.state, given.events ++ later.events⟩
      | .error (.unsupported reason) =>
        let later := submitAll s rest
        ⟨later.value.map (· + 1), given.state :: later.state,
          given.events ++ .policyDeclined s.effect reason :: later.events⟩
      | .error e => ⟨.error e, given.state :: rest, given.events⟩
    else
      let later := submitAll s rest
      ⟨later.value, v :: later.state, later.events⟩

/-- Adds a policy. It fails if no voter accepts policies. -/
def addPolicy (c : Chain V) (g : Grant) (conditions : Option Conditions) :
    Outcome (Chain V) (Except PolicyError Unit) :=
  let s := Submission.ofGrant g conditions
  let given := submitAll s c.voters
  match given.value with
  | .error e => ⟨.error e, ⟨given.state⟩, given.events⟩
  | .ok 0 =>
    ⟨.error (.unsupported "No voter is able to add the specified policy"), ⟨given.state⟩,
      given.events⟩
  | .ok capable =>
    ⟨.ok (), ⟨given.state⟩,
      given.events ++ [.policyAdded s.effect s.subjects s.actions s.resources capable]⟩

def reset (c : Chain V) : Chain V :=
  ⟨c.voters.map Voter.reset⟩

instance : Engine (Chain V) where
  check := check
  addPolicy := addPolicy
  reset := reset

end Chain

end Arbiter
