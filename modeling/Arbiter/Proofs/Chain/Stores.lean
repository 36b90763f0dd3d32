import Arbiter.Proofs.Chain.Decision
import Arbiter.Proofs.Store.Evaluation
import Arbiter.Voter.Stock
import Mathlib.Data.List.Forall2
import Arbiter.Version

/-!
# Chains of stores

A chain whose voters vote by stores of their own decides as a single store does that
holds the policies of all of them, in the order of the chain. Where one store ends and
the next begins makes no difference.

* `Store.join`: the store that holds the policies of several.
* `Voter.VotesBy`: what it takes to vote by a store.
* `Chain.verdict?_eq_join`: the verdict that such a chain finds.
* `Chain.check_eq_join`: what it allows, however the policies are divided.
-/

namespace Arbiter

namespace Store

/-- The store that holds the policies of several stores, in order. -/
def join (stores : List Store) : Store :=
  ⟨stores.flatMap Store.policies⟩

theorem join_singleton (s : Store) : join [s] = s := by
  rw [join, List.flatMap_singleton]

/-- A later store is only reached if those before it have no answer. -/
theorem evaluate_join_cons (s : Store) (stores : List Store) (a : Access) :
    (join (s :: stores)).evaluate a =
      if s.evaluate a = .noMatch then (join stores).evaluate a else s.evaluate a :=
  evaluate_append s (join stores).policies a

theorem evaluate_join_eq_noMatch_iff {stores : List Store} {a : Access} :
    (join stores).evaluate a = .noMatch ↔ ∀ s ∈ stores, s.evaluate a = .noMatch := by
  simp only [evaluate_eq_noMatch_iff, join, List.mem_flatMap]
  constructor
  · exact fun unmatched s member p stored => unmatched p ⟨s, member, stored⟩
  · rintro unmatched p ⟨s, member, stored⟩
    exact unmatched s member p stored

end Store

/-- The vote of an answer allows what the answer allows, and nothing else. -/
theorem Vote.getD_verdict?_ofEvaluation (answer : Evaluation) :
    (Vote.ofEvaluation answer).verdict?.getD false = (answer == .allow) := by
  cases answer with
  | allow => rfl
  | deny => rfl
  | noMatch => rfl

/-- A voter that votes by a store grants what the store allows, denies what it denies,
and abstains where it has no answer. -/
def Voter.VotesBy {V : Type} [Voter V] (s : Store) (v : V) : Prop :=
  ∀ r : Request, (Voter.vote v r).value = .ofEvaluation (s.evaluate r.access)

theorem Bookkeeper.votesBy [Glob.SizeLimit] {v : Bookkeeper} {s : Store}
    (rule : v.rule = .policies s) : Voter.VotesBy s v := by
  intro r
  have vote : (Voter.vote v r).value = v.rule.vote r := rfl
  rw [vote, rule, Rule.vote]

/-- Any stores can be given to voters of their own. -/
theorem Bookkeeper.votesBy_map [Glob.SizeLimit] (stores : List Store) (admission : Admission) :
    List.Forall₂ Voter.VotesBy stores
      (stores.map fun s => Bookkeeper.new (.policies s) admission) := by
  rw [List.forall₂_map_right_iff, List.forall₂_same]
  exact fun s _ => votesBy rfl

namespace Chain

variable {V : Type} [Voter V]

/-- The first store with an answer decides, as it does among the policies of all. -/
theorem verdict?_eq_join {stores : List Store} {voters : List V}
    (own : List.Forall₂ Voter.VotesBy stores voters) (r : Request) :
    verdict? r voters = (Vote.ofEvaluation ((Store.join stores).evaluate r.access)).verdict? := by
  induction own with
  | nil => rfl
  | @cons s v stores voters votes _ ih =>
    rw [verdict?_cons, votes r, ih, Store.evaluate_join_cons]
    cases s.evaluate r.access with
    | allow => rfl
    | deny => rfl
    | noMatch => rfl

theorem check_value_eq_join {stores : List Store} {voters : List V}
    (own : List.Forall₂ Voter.VotesBy stores voters) (r : Request) :
    (check ⟨voters⟩ r).value = ((Store.join stores).evaluate r.access == .allow) := by
  rw [check_value, verdict?_eq_join own r, Vote.getD_verdict?_ofEvaluation]

/-- **A chain of stores is one store.** A chain whose voters vote by stores of their own
allows exactly what the store with the policies of all of them allows.

* Its verdict is therefore the same however these policies are divided into stores, empty
  ones included.
* A request that none of the stores answers is denied. -/
theorem check_eq_join {stores : List Store} {voters : List V}
    (own : List.Forall₂ Voter.VotesBy stores voters) (r : Request) :
    ((check ⟨voters⟩ r).value = true ↔ (Store.join stores).evaluate r.access = .allow) ∧
      (∀ (parts : List Store) (others : List V),
        List.Forall₂ Voter.VotesBy parts others →
          parts.flatMap Store.policies = stores.flatMap Store.policies →
            (check ⟨others⟩ r).value = (check ⟨voters⟩ r).value) ∧
      ((∀ s ∈ stores, s.evaluate r.access = .noMatch) → (check ⟨voters⟩ r).value = false) := by
  have verdict := check_value_eq_join own r
  refine ⟨?_, fun parts others theirs same => ?_, fun unmatched => ?_⟩
  · rw [verdict, beq_iff_eq]
  · have joined : Store.join parts = Store.join stores := congrArg Store.mk same
    rw [verdict, check_value_eq_join theirs r, joined]
  · rw [verdict, Store.evaluate_join_eq_noMatch_iff.mpr unmatched]
    rfl

/-- The first store denies deletions only, the second one is empty, and a single voter
may own the policies of all three. -/
theorem check_eq_join_of_three_stores :
    let deletions : Grant := ⟨.deny, none, some ["Delete*"], none⟩
    let everything : Grant := ⟨.allow, some [], none, none⟩
    let stores : List Store := [Store.empty.add deletions, .empty, Store.empty.add everything]
    let voters : List Bookkeeper := stores.map fun s => .new (.policies s) .recording
    let single : Bookkeeper := .new (.policies (Store.join stores)) .recording
    let r : Request := ⟨.ofId "root" "admin", "GetTest", none, []⟩
    List.Forall₂ Voter.VotesBy stores voters ∧ (check ⟨voters⟩ r).value = true ∧
      (check ⟨[single]⟩ r).value = (check ⟨voters⟩ r).value := by
  intro deletions everything stores voters single r
  have own : List.Forall₂ Voter.VotesBy stores voters := Bookkeeper.votesBy_map stores .recording
  have owner : List.Forall₂ Voter.VotesBy [Store.join stores] [single] :=
    Bookkeeper.votesBy_map [Store.join stores] .recording
  obtain ⟨allowed, undivided, -⟩ := check_eq_join own r
  exact ⟨own, allowed.mpr (by decide), undivided _ _ owner rfl⟩

end Chain

end Arbiter
