import Arbiter.Proofs.Policy.Dimension
import Arbiter.Proofs.Store.Evaluation
import Mathlib.Data.List.ProdSigma
import Arbiter.Version

/-!
# One target at a time

A policy with several targets says no more than one policy for each combination of them, and it
does not matter in which order, or how often, a dimension names a glob.

* `Targets.choices` and `Grant.singles`: the targets of a dimension, and of a whole grant, one by
  one.
* `Grant.exists_single_matches_iff`: a policy matches what one of its singles matches.
* `Store.evaluate_eq_of_effect` and `Store.evaluate_congr`: policies of one effect decide by what
  they match together, wherever they stand in a store.
* `Store.evaluate_replace`: so they can stand for a policy that matches the same.
* `Store.evaluate_singles`: a policy can be replaced by its singles, and its globs rearranged.
-/

namespace Arbiter

namespace Targets

/-! ## A single dimension -/

/-- The targets of a dimension one by one. If it is open or empty, it is open as a whole. -/
def choices : Option Targets → List (Option Targets)
  | none | some [] => [none]
  | some (glob :: globs) => (glob :: globs).map fun single => some [single]

/-- One of the choices lets a text through exactly if the dimension does. -/
theorem exists_choice_admits_iff [Glob.SizeLimit] (targets : Option Targets) (text : String) :
    (∃ choice ∈ choices targets, Admits choice text) ↔ Admits targets text := by
  rcases targets with _ | _ | ⟨glob, globs⟩
  · simp only [choices, List.mem_singleton, exists_eq_left]
  · simp only [choices, List.mem_singleton, exists_eq_left, admits_iff, named,
      Option.getD_none, Option.getD_some]
  · have globs_named : named (some (glob :: globs)) ≠ [] := List.cons_ne_nil glob globs
    rw [admits_iff, or_iff_right globs_named]
    simp only [choices, List.mem_map, exists_exists_and_eq_and, admits_single_iff]
    rfl

/-- There are as many choices as targets, and one if there is none. -/
theorem length_choices (targets : Option Targets) :
    (choices targets).length = max 1 (named targets).length := by
  rcases targets with _ | _ | ⟨glob, globs⟩
  · rfl
  · rfl
  · have positive : 1 ≤ (glob :: globs).length := Nat.succ_pos _
    rw [choices, List.length_map, named, Option.getD_some, Nat.max_eq_right positive]

end Targets

namespace Grant

open Targets

/-! ## Whole grants -/

/-- The grants with the same effect that name one target in each dimension. -/
def singles (g : Grant) : List Grant :=
  (choices g.subjects ×ˢ (choices g.actions ×ˢ choices g.resources)).map
    fun (subject, action, resource) => ⟨g.effect, subject, action, resource⟩

/-- The same effect, and in each dimension the same globs, in any order and any number of
times. -/
structure SameTargets (g other : Grant) : Prop where
  effect : g.effect = other.effect
  subjects : ∀ glob, glob ∈ named g.subjects ↔ glob ∈ named other.subjects
  actions : ∀ glob, glob ∈ named g.actions ↔ glob ∈ named other.actions
  resources : ∀ glob, glob ∈ named g.resources ↔ glob ∈ named other.resources

variable {g other : Grant} {a : Access}

theorem policy_matches_iff [Glob.SizeLimit] :
    g.policy.Matches a ↔
      Admits g.subjects a.subject ∧ Admits g.actions a.action ∧
        Admits g.resources a.resource := by
  rw [← Policy.covers_eq_true_iff, Policy.covers, Bool.and_eq_true, Bool.and_eq_true, and_assoc]
  rfl

theorem mem_singles_iff {single : Grant} :
    single ∈ g.singles ↔
      single.effect = g.effect ∧ single.subjects ∈ choices g.subjects ∧
        single.actions ∈ choices g.actions ∧ single.resources ∈ choices g.resources := by
  rw [singles, List.mem_map]
  constructor
  · intro ⟨(subject, action, resource), member, made⟩
    simp only [List.mem_product] at member
    rw [← made]
    exact ⟨rfl, member⟩
  · intro ⟨effect, member⟩
    refine ⟨(single.subjects, single.actions, single.resources), ?_, ?_⟩
    · simp only [List.mem_product]
      exact member
    · rw [← effect]

theorem length_singles (g : Grant) :
    g.singles.length = max 1 (named g.subjects).length * max 1 (named g.actions).length *
      max 1 (named g.resources).length := by
  rw [singles, List.length_map, List.length_product, List.length_product, length_choices,
    length_choices, length_choices, Nat.mul_assoc]

/-- A policy matches a request exactly if one of its singles does. -/
theorem exists_single_matches_iff [Glob.SizeLimit] :
    (∃ single ∈ g.singles, single.policy.Matches a) ↔ g.policy.Matches a := by
  simp only [policy_matches_iff, ← exists_choice_admits_iff g.subjects,
    ← exists_choice_admits_iff g.actions, ← exists_choice_admits_iff g.resources]
  constructor
  · intro ⟨single, member, subject, action, resource⟩
    obtain ⟨-, in_subjects, in_actions, in_resources⟩ := mem_singles_iff.mp member
    exact ⟨⟨_, in_subjects, subject⟩, ⟨_, in_actions, action⟩, ⟨_, in_resources, resource⟩⟩
  · intro ⟨⟨s, in_subjects, subject⟩, ⟨t, in_actions, action⟩, ⟨r, in_resources, resource⟩⟩
    have member : ⟨g.effect, s, t, r⟩ ∈ g.singles :=
      mem_singles_iff.mpr ⟨rfl, in_subjects, in_actions, in_resources⟩
    exact ⟨_, member, subject, action, resource⟩

theorem SameTargets.matches_iff [Glob.SizeLimit] (same : g.SameTargets other) :
    g.policy.Matches a ↔ other.policy.Matches a := by
  rw [policy_matches_iff, policy_matches_iff, admits_congr same.subjects,
    admits_congr same.actions, admits_congr same.resources]

end Grant

namespace Store

/-! ## Policies in a store -/

section

variable {policies others : List Policy} {effect : Effect} {a : Access}

/-- Policies of one effect answer with this effect if one of them matches. -/
theorem evaluate_of_effect (alike : ∀ p ∈ policies, p.effect = effect)
    (matched : ∃ p ∈ policies, p.Matches a) : evaluate ⟨policies⟩ a = .ofEffect effect := by
  rw [evaluate_eq]
  cases found : policies.find? (·.covers a) with
  | none =>
    obtain ⟨p, member, hit⟩ := matched
    exact absurd hit (find?_covers_eq_none_iff.mp found p member)
  | some p =>
    have member : p ∈ policies := List.mem_of_find?_eq_some found
    exact congrArg Evaluation.ofEffect (alike p member)

/-- Policies of one effect are all alike to a request, up to whether one of them matches. -/
theorem evaluate_eq_of_effect (alike : ∀ p ∈ policies, p.effect = effect)
    (alike' : ∀ p ∈ others, p.effect = effect)
    (same : (∃ p ∈ policies, p.Matches a) ↔ ∃ p ∈ others, p.Matches a) :
    evaluate ⟨policies⟩ a = evaluate ⟨others⟩ a := by
  by_cases matched : ∃ p ∈ policies, p.Matches a
  · rw [evaluate_of_effect alike matched, evaluate_of_effect alike' (same.mp matched)]
  · have unmatched := mt same.mpr matched
    simp only [not_exists, not_and] at matched unmatched
    rw [evaluate_eq_noMatch_iff.mpr matched, evaluate_eq_noMatch_iff.mpr unmatched]

/-- Policies that answer alike on their own can stand for each other in any store. -/
theorem evaluate_congr (same : evaluate ⟨policies⟩ a = evaluate ⟨others⟩ a)
    (before after : List Policy) :
    evaluate ⟨before ++ policies ++ after⟩ a = evaluate ⟨before ++ others ++ after⟩ a := by
  have front : evaluate ⟨before ++ policies⟩ a = evaluate ⟨before ++ others⟩ a := by
    rw [evaluate_append ⟨before⟩, evaluate_append ⟨before⟩, same]
  rw [evaluate_append ⟨before ++ policies⟩, evaluate_append ⟨before ++ others⟩, front]

/-- A policy can be replaced by policies of its effect that match together what it matches. -/
theorem evaluate_replace {p : Policy} (alike : ∀ q ∈ others, q.effect = p.effect)
    (same : (∃ q ∈ others, q.Matches a) ↔ p.Matches a) (before after : List Policy) :
    evaluate ⟨before ++ others ++ after⟩ a = evaluate ⟨before ++ p :: after⟩ a := by
  have itself : ∀ q ∈ [p], q.effect = p.effect := List.forall_mem_singleton.mpr rfl
  have single : (∃ q ∈ [p], q.Matches a) ↔ p.Matches a := by
    simp only [List.mem_singleton, exists_eq_left]
  have answers := evaluate_eq_of_effect alike itself (same.trans single.symm)
  rw [List.append_cons before p after]
  exact evaluate_congr answers before after

end

/-- **Targets mean their product.** At any place in a store, a policy can be replaced by the
policies with the same effect that name one target in each dimension, in any order. There are
as many of them as there are combinations of targets, where a dimension without targets counts
as a single one. The policy can also be replaced by one that names the same globs in another
order or another number of times. None of this changes any answer. -/
theorem evaluate_singles [Glob.SizeLimit] (before after : List Policy) (g : Grant) (a : Access) :
    (∀ singles : List Grant, singles.Perm g.singles →
      singles.length = max 1 (Targets.named g.subjects).length *
          max 1 (Targets.named g.actions).length * max 1 (Targets.named g.resources).length ∧
        evaluate ⟨before ++ singles.map Grant.policy ++ after⟩ a =
          evaluate ⟨before ++ g.policy :: after⟩ a) ∧
      ∀ other : Grant, other.SameTargets g →
        evaluate ⟨before ++ other.policy :: after⟩ a =
          evaluate ⟨before ++ g.policy :: after⟩ a := by
  constructor
  · intro singles order
    have alike : ∀ p ∈ singles.map Grant.policy, p.effect = g.policy.effect := by
      rw [List.forall_mem_map]
      intro single member
      exact (Grant.mem_singles_iff.mp (order.mem_iff.mp member)).1
    have same : (∃ p ∈ singles.map Grant.policy, p.Matches a) ↔ g.policy.Matches a := by
      simp only [List.mem_map, exists_exists_and_eq_and, order.mem_iff]
      exact Grant.exists_single_matches_iff
    exact ⟨order.length_eq.trans g.length_singles, evaluate_replace alike same before after⟩
  · intro other same
    have alike : ∀ p ∈ [other.policy], p.effect = g.policy.effect :=
      List.forall_mem_singleton.mpr same.effect
    have both : (∃ p ∈ [other.policy], p.Matches a) ↔ g.policy.Matches a := by
      simp only [List.mem_singleton, exists_eq_left]
      exact same.matches_iff
    rw [List.append_cons before other.policy after]
    exact evaluate_replace alike both before after

/-- Two subjects one at a time and the other way round, among open and empty dimensions, and
both of them in one policy again, one of them twice. -/
theorem evaluate_singles_of_two_subjects :
    let g : Grant := ⟨.deny, some ["a", "b*"], none, some []⟩
    let singles : List Grant := [⟨.deny, some ["b*"], none, none⟩, ⟨.deny, some ["a"], none, none⟩]
    let other : Grant := ⟨.deny, some ["b*", "a", "b*"], some [], none⟩
    evaluate ⟨[] ++ singles.map Grant.policy ++ []⟩ ⟨"bc", "read", ""⟩ =
        evaluate ⟨[] ++ [g.policy]⟩ ⟨"bc", "read", ""⟩ ∧
      evaluate ⟨[] ++ [other.policy]⟩ ⟨"bc", "read", ""⟩ =
        evaluate ⟨[] ++ [g.policy]⟩ ⟨"bc", "read", ""⟩ ∧
      evaluate ⟨[] ++ [g.policy]⟩ ⟨"bc", "read", ""⟩ = .deny := by
  intro g singles other
  have replaced := evaluate_singles [] [] g ⟨"bc", "read", ""⟩
  have subjects (glob : String) : glob ∈ ["b*", "a", "b*"] ↔ glob ∈ ["a", "b*"] := by
    simp only [List.mem_cons, List.not_mem_nil, or_false]
    tauto
  have same : other.SameTargets g := ⟨rfl, subjects, fun _ => Iff.rfl, fun _ => Iff.rfl⟩
  exact ⟨(replaced.1 singles (by decide)).2, replaced.2 other same, by decide⟩

end Store

end Arbiter
