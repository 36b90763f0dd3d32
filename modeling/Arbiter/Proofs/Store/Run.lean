import Arbiter.Proofs.Store.Evaluation
import Mathlib.Data.List.DropRight
import Mathlib.Data.List.Forall2

/-!
# Runs of a store

A run is a list of operations on one store. What a store holds after a run are the
policies that were registered since it was last cleared, in the order of their
registration.

* `Store.Operation` and `Store.run`: what can be done to a store, one after another.
* `Store.registered`: the grants that a run leaves registered.
* `Store.run_policies`: a store holds the policies of these grants.
* `Policy.Reads`: a policy holds the patterns that its grant asks for.
* `Store.evaluate_run`: what a store holds and answers after a run.
-/

namespace Arbiter

variable [Glob.SizeLimit]

/-! ## What a policy makes of its grant -/

/-- The patterns that a dimension asks for. There is one for each glob, in order; a
dimension that is open or empty asks for a single one, which accepts everything. -/
inductive Targets.Asks : Option Targets → List Pattern → Prop
  | everything {targets : Option Targets} {pattern : Pattern} :
    targets = none ∨ targets = some [] → pattern.glob = "**" →
    (∀ text, pattern.accepts text = true) → Targets.Asks targets [pattern]
  | globs {globs : Targets} :
    globs ≠ [] → Targets.Asks (some globs) (globs.map Pattern.compile)

theorem Targets.asks_patterns (targets : Option Targets) :
    Targets.Asks targets (Targets.patterns targets) := by
  rcases targets with _ | _ | ⟨glob, globs⟩
  · exact .everything (.inl rfl) rfl fun _ => rfl
  · exact .everything (.inr rfl) rfl fun _ => rfl
  · exact .globs (List.cons_ne_nil glob globs)

/-- No dimension is without patterns, so none is out of reach for every request. -/
theorem Targets.Asks.ne_nil {targets : Option Targets} {patterns : List Pattern}
    (asks : Targets.Asks targets patterns) : patterns ≠ [] := by
  cases asks with
  | everything => exact List.cons_ne_nil _ []
  | globs given => exact fun none_left => given (List.map_eq_nil_iff.mp none_left)

/-- A policy with the effect of its grant and the patterns that its dimensions ask for. -/
structure Policy.Reads (g : Grant) (p : Policy) : Prop where
  effect : p.effect = g.effect
  subjects : Targets.Asks g.subjects p.subjects
  actions : Targets.Asks g.actions p.actions
  resources : Targets.Asks g.resources p.resources

theorem Grant.reads_policy (g : Grant) : Policy.Reads g g.policy :=
  ⟨rfl, Targets.asks_patterns g.subjects, Targets.asks_patterns g.actions,
    Targets.asks_patterns g.resources⟩

namespace Store

/-! ## Operations on a store -/

inductive Operation where
  /-- Makes the policy of a grant and registers it. -/
  | add (g : Grant)
  /-- Registers the policy of a grant, which was made before. -/
  | push (g : Grant)
  | clear

namespace Operation

def isClear : Operation → Bool
  | .clear => true
  | _ => false

def grant? : Operation → Option Grant
  | .add g | .push g => some g
  | .clear => none

end Operation

def perform (s : Store) : Operation → Store
  | .add g => s.add g
  | .push g => s.push g.policy
  | .clear => s.clear

/-- The store after a run. -/
def run (s : Store) (operations : List Operation) : Store :=
  operations.foldl perform s

/-- The grants that were registered since the store was last cleared, in order. -/
def registered (operations : List Operation) : List Grant :=
  (operations.rtakeWhile fun operation => !operation.isClear).filterMap Operation.grant?

theorem run_concat (s : Store) (operations : List Operation) (operation : Operation) :
    run s (operations ++ [operation]) = (run s operations).perform operation := by
  rw [run, List.foldl_append]
  rfl

omit [Glob.SizeLimit] in
theorem registered_concat (operations : List Operation) (operation : Operation) :
    registered (operations ++ [operation]) =
      if operation.isClear then []
      else registered operations ++ operation.grant?.toList := by
  rw [registered, List.rtakeWhile_concat]
  cases operation with
  | add g => exact List.filterMap_append
  | push g => exact List.filterMap_append
  | clear => rfl

/-- One operation clears the store or registers one policy behind all others. -/
theorem perform_policies (s : Store) (operation : Operation) :
    (s.perform operation).policies =
      if operation.isClear then []
      else s.policies ++ operation.grant?.toList.map Grant.policy := by
  cases operation with
  | add g => rfl
  | push g => rfl
  | clear => rfl

/-- A run leaves the policies that it has registered behind those that it has not
cleared. -/
theorem run_policies (s : Store) (operations : List Operation) :
    (run s operations).policies =
      (if operations.any Operation.isClear then [] else s.policies) ++
        (registered operations).map Grant.policy := by
  -- What is registered grows where the run does, at its end.
  induction operations using List.reverseRecOn with
  | nil => exact (List.append_nil s.policies).symm
  | append_singleton operations operation ih =>
    rw [run_concat, perform_policies, registered_concat, List.any_append, ih]
    cases operation with
    | add g => simp [Operation.isClear, Operation.grant?]
    | push g => simp [Operation.isClear, Operation.grant?]
    | clear => simp [Operation.isClear]

theorem run_empty_policies (operations : List Operation) :
    (run empty operations).policies = (registered operations).map Grant.policy := by
  rw [run_policies, empty, ite_self, List.nil_append]

/-- A run that does not clear the store only registers policies behind the others. -/
theorem run_of_no_clear (s : Store) {operations : List Operation}
    (no_clear : ∀ operation ∈ operations, operation.isClear = false) :
    run s operations = ⟨s.policies ++ (registered operations).map Grant.policy⟩ := by
  have kept : ¬ operations.any Operation.isClear = true := by
    rw [List.any_eq_true]
    rintro ⟨operation, member, clears⟩
    rw [no_clear operation member] at clears
    cases clears
  have policies := run_policies s operations
  rw [if_neg kept] at policies
  rw [← policies]

/-- **A store over a whole run.** After any run on a new store:

* It holds one policy for each grant that was registered since it was last cleared, in
  order, with the effect of the grant and the patterns that its dimensions ask for. No
  dimension is without patterns.
* The first policy that matches a request in all three dimensions decides it, whatever
  the policies behind that one are. Without such a policy there is no answer.
* Registering more policies does not change an answer. -/
theorem evaluate_run (operations : List Operation) :
    let s := run empty operations
    List.Forall₂ Policy.Reads (registered operations) s.policies ∧
      s.size = (registered operations).length ∧
      (∀ p ∈ s.policies, p.subjects ≠ [] ∧ p.actions ≠ [] ∧ p.resources ≠ []) ∧
      ∀ a : Access,
        (∀ before p after, s.policies = before ++ p :: after →
          (∀ q ∈ before, ¬ q.Matches a) → p.Matches a →
            s.evaluate a = .ofEffect p.effect ∧
              ∀ others, evaluate ⟨before ++ p :: others⟩ a = s.evaluate a) ∧
        (s.evaluate a = .noMatch ↔ ∀ p ∈ s.policies, ¬ p.Matches a) ∧
        (s.evaluate a ≠ .noMatch → ∀ more : List Operation,
          (∀ operation ∈ more, operation.isClear = false) →
            (run s more).evaluate a = s.evaluate a) := by
  intro s
  have policies : s.policies = (registered operations).map Grant.policy :=
    run_empty_policies operations
  refine ⟨?_, ?_, fun p member => ?_, fun a => ⟨fun before p after parts unmatched matched => ?_,
    evaluate_eq_noMatch_iff, fun answered more no_clear => ?_⟩⟩
  · rw [policies, List.forall₂_map_right_iff, List.forall₂_same]
    exact fun g _ => g.reads_policy
  · rw [size, policies, List.length_map]
  · rw [policies, List.mem_map] at member
    obtain ⟨g, -, rfl⟩ := member
    have reads := g.reads_policy
    exact ⟨reads.subjects.ne_nil, reads.actions.ne_nil, reads.resources.ne_nil⟩
  · have decided : s.evaluate a = .ofEffect p.effect := by
      have first := evaluate_of_first unmatched matched after
      rwa [← parts] at first
    refine ⟨decided, fun others => ?_⟩
    rw [decided]
    exact evaluate_of_first unmatched matched others
  · rw [run_of_no_clear s no_clear, evaluate_append, if_neg answered]

end Store

end Arbiter
