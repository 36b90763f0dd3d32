import Arbiter.Store

/-!
# The answer of a store

The position that a store keeps with each policy decides nothing: a store answers
with the effect of the first policy that covers the request.

* `Store.evaluate_eq`: the answer of a store, without positions.
* `Policy.Matches`: what it takes for a policy to cover a request.
* `Store.evaluate_of_first` and `Store.evaluate_eq_noMatch_iff`: the first policy that
  matches decides, and nothing else does.
* `Store.evaluate_append`: policies behind others are only reached if none of those
  matches.
-/

namespace Arbiter

/-- In every dimension of the policy, some pattern accepts the text of the request. -/
structure Policy.Matches (p : Policy) (a : Access) : Prop where
  subject : ∃ pattern ∈ p.subjects, pattern.accepts a.subject = true
  action : ∃ pattern ∈ p.actions, pattern.accepts a.action = true
  resource : ∃ pattern ∈ p.resources, pattern.accepts a.resource = true

theorem Policy.covers_eq_true_iff {p : Policy} {a : Access} :
    p.covers a = true ↔ p.Matches a := by
  rw [covers, Bool.and_eq_true, Bool.and_eq_true, anyAccepts_eq_true_iff,
    anyAccepts_eq_true_iff, anyAccepts_eq_true_iff]
  constructor
  · rintro ⟨⟨subject, action⟩, resource⟩
    exact ⟨subject, action, resource⟩
  · rintro ⟨subject, action, resource⟩
    exact ⟨⟨subject, action⟩, resource⟩

namespace Store

theorem firstCovering?_fst (s : Store) (a : Access) :
    (s.firstCovering? a).map Prod.fst = s.policies.find? (·.covers a) := by
  have found := List.find?_map (f := Prod.fst) (p := (·.covers a)) (l := s.policies.zipIdx)
  rw [List.zipIdx_map_fst] at found
  exact found.symm

/-- A store answers with the effect of the first policy that covers the request. -/
theorem evaluate_eq (s : Store) (a : Access) :
    s.evaluate a =
      match s.policies.find? (·.covers a) with
      | some p => .ofEffect p.effect
      | none => .noMatch := by
  rw [← firstCovering?_fst, evaluate]
  cases s.firstCovering? a with
  | none => rfl
  | some entry => rfl

/-! ## The first policy that matches -/

section

variable {a : Access}

theorem find?_covers_eq_none_iff {policies : List Policy} :
    policies.find? (·.covers a) = none ↔ ∀ p ∈ policies, ¬ p.Matches a := by
  simp only [List.find?_eq_none, Policy.covers_eq_true_iff]

/-- A policy that matches decides if no policy before it matches. -/
theorem evaluate_of_first {before : List Policy} {p : Policy}
    (unmatched : ∀ q ∈ before, ¬ q.Matches a) (matched : p.Matches a) (after : List Policy) :
    evaluate ⟨before ++ p :: after⟩ a = .ofEffect p.effect := by
  have head : (p :: after).find? (·.covers a) = some p :=
    List.find?_cons_of_pos (Policy.covers_eq_true_iff.mpr matched)
  rw [evaluate_eq, List.find?_append, find?_covers_eq_none_iff.mpr unmatched, Option.none_or,
    head]

/-- A store without an answer holds no policy that matches. -/
theorem evaluate_eq_noMatch_iff {s : Store} :
    s.evaluate a = .noMatch ↔ ∀ p ∈ s.policies, ¬ p.Matches a := by
  rw [evaluate_eq, ← find?_covers_eq_none_iff]
  cases s.policies.find? (·.covers a) with
  | none => simp
  | some p => cases effect : p.effect <;> simp [Evaluation.ofEffect, effect]

/-- Policies behind others are only reached if none of those matches. -/
theorem evaluate_append (s : Store) (more : List Policy) (a : Access) :
    evaluate ⟨s.policies ++ more⟩ a =
      if s.evaluate a = .noMatch then evaluate ⟨more⟩ a else s.evaluate a := by
  rw [evaluate_eq, List.find?_append]
  cases found : s.policies.find? (·.covers a) with
  | none =>
    have nothing := evaluate_eq_noMatch_iff.mpr (find?_covers_eq_none_iff.mp found)
    rw [if_pos nothing, evaluate_eq, Option.none_or]
  | some p =>
    have something : s.evaluate a ≠ .noMatch := by
      intro nothing
      rw [find?_covers_eq_none_iff.mpr (evaluate_eq_noMatch_iff.mp nothing)] at found
      cases found
    rw [if_neg something, evaluate_eq, found]
    rfl

end

end Store

end Arbiter
