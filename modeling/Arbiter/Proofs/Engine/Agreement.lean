import Arbiter.Proofs.Chain.Stores
import Arbiter.Proofs.TestDouble.History

/-!
# Engines that decide by a store

A chain with a single voter that takes every policy into a store, and a test double that
stays in one scope and denies by default, are both no more than a store. They give the
same answers, as long as nobody names a dimension by the label that stands for an open
one: a chain reads the label, and a test double reads a glob.

* `Engine.storeReplies`: what a store would answer to a run.
* `Engine.DecidesBy`: what it takes to decide by a store, with one law for each call.
* `Engine.DecidesBy.replies_eq`: an engine that decides by a store answers a run as the
  store would.
* `Chain.decidesBy` and `TestDouble.decidesBy`: both engines do.
* `Engine.replies_chain_eq_replies_double`: they agree.
-/

namespace Arbiter

/-! ## The label of an open dimension -/

/-- A dimension that was handed on is read back, unless it was the label itself. -/
theorem Targets.ofLabel_orAny {targets : Option Targets} (unlabelled : targets ≠ some any) :
    ofLabel (orAny targets) = targets := by
  cases targets with
  | none => exact if_pos rfl
  | some globs => exact if_neg fun label => unlabelled (congrArg some label)

/-- A grant none of whose dimensions is named by the label of an open one. -/
structure Grant.Unlabelled (g : Grant) : Prop where
  subjects : g.subjects ≠ some ["**"]
  actions : g.actions ≠ some ["**"]
  resources : g.resources ≠ some ["**"]

theorem Submission.grant_ofGrant {g : Grant} (unlabelled : g.Unlabelled)
    (conditions : Option Conditions) : (Submission.ofGrant g conditions).grant = g := by
  have subjects := Targets.ofLabel_orAny unlabelled.subjects
  have actions := Targets.ofLabel_orAny unlabelled.actions
  have resources := Targets.ofLabel_orAny unlabelled.resources
  rw [grant, ofGrant]
  dsimp only
  rw [subjects, actions, resources]

namespace Engine

/-- A check, or a policy without conditions that names no dimension by the label of an
open one. -/
def Call.IsPlain : Call → Prop
  | .check _ => True
  | .addPolicy g conditions => g.Unlabelled ∧ conditions = none
  | .reset => False

/-- What a store would answer to a run. It allows what its policies allow, and takes
every policy. -/
def storeReplies [Glob.SizeLimit] (s : Store) : List Call → List Reply
  | [] => []
  | .check r :: calls => .verdict (s.evaluate r.access == .allow) :: storeReplies s calls
  | .addPolicy g _ :: calls => .added (.ok ()) :: storeReplies (s.add g) calls
  | .reset :: calls => .done :: storeReplies s calls

/-- An engine decides by the store that it keeps, and takes every plain policy into it. -/
structure DecidesBy [Glob.SizeLimit] {E : Type} [Engine E] (keeps : E → Store → Prop) : Prop where
  check {e : E} {s : Store} : keeps e s → ∀ r : Request,
    (Engine.check e r).value = (s.evaluate r.access == .allow) ∧
      keeps (Engine.check e r).state s
  addPolicy {e : E} {s : Store} : keeps e s → ∀ g : Grant, g.Unlabelled →
    (Engine.addPolicy e g none).value = .ok () ∧ keeps (Engine.addPolicy e g none).state (s.add g)

/-- An engine that decides by a store answers a run as the store would. -/
theorem DecidesBy.replies_eq [Glob.SizeLimit] {E : Type} [Engine E] {keeps : E → Store → Prop}
    (byStore : DecidesBy keeps) {e : E} {s : Store} (kept : keeps e s) {calls : List Call}
    (plain : ∀ call ∈ calls, call.IsPlain) : replies e calls = storeReplies s calls := by
  induction calls generalizing e s with
  | nil => rfl
  | cons call calls ih =>
    have later : ∀ call ∈ calls, call.IsPlain :=
      fun other member => plain other (List.mem_cons_of_mem call member)
    cases call with
    | check r =>
      obtain ⟨verdict, still⟩ := byStore.check kept r
      have rest : replies (Engine.check e r).state calls = storeReplies s calls := ih still later
      rw [storeReplies, ← rest, ← verdict]
      rfl
    | addPolicy g conditions =>
      obtain ⟨unlabelled, rfl⟩ := plain _ List.mem_cons_self
      obtain ⟨added, grown⟩ := byStore.addPolicy kept g unlabelled
      have rest : replies (Engine.addPolicy e g none).state calls =
          storeReplies (s.add g) calls := ih grown later
      rw [storeReplies, ← rest, ← added]
      rfl
    | reset => exact (plain _ List.mem_cons_self).elim

theorem added_ok_of_mem_storeReplies [Glob.SizeLimit] {s : Store} {calls : List Call}
    {result : Except PolicyError Unit} (member : .added result ∈ storeReplies s calls) :
    result = .ok () := by
  induction calls generalizing s with
  | nil => cases member
  | cons call calls ih =>
    cases call with
    | check r =>
      rcases List.mem_cons.mp member with head | later
      · cases head
      · exact ih later
    | addPolicy g conditions =>
      rcases List.mem_cons.mp member with head | later
      · exact Reply.added.inj head
      · exact ih later
    | reset =>
      rcases List.mem_cons.mp member with head | later
      · cases head
      · exact ih later

end Engine

/-! ## A chain of one store -/

namespace Chain

/-- A chain whose only voter takes a policy is left with this voter as it then is. -/
theorem addPolicy_singleton {V : Type} [Voter V] {v : V} (g : Grant)
    (conditions : Option Conditions) (accepts : Voter.acceptsPolicies v = true)
    (taken : (Voter.submit v (.ofGrant g conditions)).value = .ok ()) :
    (addPolicy ⟨[v]⟩ g conditions).value = .ok () ∧
      (addPolicy ⟨[v]⟩ g conditions).state =
        ⟨[(Voter.submit v (.ofGrant g conditions)).state]⟩ := by
  have round : submitAll (.ofGrant g conditions) [v] =
      ⟨.ok 1, [(Voter.submit v (.ofGrant g conditions)).state],
        (Voter.submit v (.ofGrant g conditions)).events ++ []⟩ := by
    simp only [submitAll, if_pos accepts, taken]
    rfl
  constructor
  · simp only [addPolicy, round]
  · simp only [addPolicy, round]

/-- A chain whose only voter votes by the store and takes every policy into it. -/
def Keeps (c : Chain Bookkeeper) (s : Store) : Prop :=
  ∃ v : Bookkeeper, c = ⟨[v]⟩ ∧ v.rule = .policies s ∧ v.admission = .recording

theorem decidesBy [Glob.SizeLimit] : Engine.DecidesBy Keeps where
  check := by
    rintro _ s ⟨v, rfl, rule, admission⟩ r
    have own : List.Forall₂ Voter.VotesBy [s] [v] := .cons (Bookkeeper.votesBy rule) .nil
    have verdict := check_value_eq_join own r
    rw [Store.join_singleton] at verdict
    exact ⟨verdict, (Voter.vote v r).state, check_state_singleton v r, rule, admission⟩
  addPolicy := by
    rintro _ s ⟨v, rfl, rule, admission⟩ g unlabelled
    rcases v with ⟨_, _, calls, recorded, resets⟩
    subst rule admission
    let v : Bookkeeper := ⟨.policies s, .recording, calls, recorded, resets⟩
    obtain ⟨added, after⟩ := addPolicy_singleton (v := v) g none rfl rfl
    have read := Submission.grant_ofGrant unlabelled none
    have taken : Rule.policies (s.add (Submission.ofGrant g none).grant) = .policies (s.add g) :=
      congrArg (fun grant => Rule.policies (s.add grant)) read
    exact ⟨added, _, after, taken, rfl⟩

end Chain

/-! ## A test double in one scope -/

namespace TestDouble

/-- A test double that stays in a scope, denies by default, and holds the policies of the
store for this scope. -/
structure Keeps (scope : ScopeId) (d : TestDouble) (s : Store) : Prop where
  current : d.currentScope? = some scope
  denies : d.settings.defaultAllow = false
  registered : (d.scopes.find? scope).getD .empty = ⟨s, none⟩

/-- Without policies there is nothing to allow a request, and the default does not. -/
theorem Keeps.verdictIn {scope : ScopeId} {d : TestDouble} {s : Store} (kept : Keeps scope d s)
    (r : Request) : d.verdictIn scope r = (s.evaluate r.access == .allow) := by
  have verdict := verdictIn_eq d scope r
  rw [kept.registered, kept.denies] at verdict
  rw [verdict]
  rcases s with ⟨_ | ⟨p, policies⟩⟩
  · rfl
  · rfl

theorem decidesBy [Glob.SizeLimit] (scope : ScopeId) : Engine.DecidesBy (Keeps scope) where
  check := by
    intro d s kept r
    have inScope : Engine.check d r = d.checkIn scope r := check_of_scope kept.current r
    rw [inScope]
    refine ⟨kept.verdictIn r, ?_, ?_, ?_⟩
    · exact (congrArg ScopeResolver.current? (recordAction_resolver d r.action)).trans kept.current
    · rw [checkIn, recordAction_settings, kept.denies]
    · rw [checkIn, recordAction_scopes, kept.registered]
  addPolicy := by
    intro d s kept g _
    have inScope : d.addGrant g = d.addGrantIn scope g := addGrant_of_scope kept.current g
    have after : (Engine.addPolicy d g none).state = (d.addGrantIn scope g).state :=
      congrArg Outcome.state inScope
    rw [after]
    refine ⟨rfl, kept.current, kept.denies, ?_⟩
    rw [addGrantIn, ScopeTable.find?_update, if_pos rfl, kept.registered]
    rfl

end TestDouble

/-! ## Their agreement -/

namespace Engine

/-- **A chain with a store and a test double agree.** The chain has a single voter, which
begins with an empty store, takes every policy into it and votes as the store answers. The
test double stays in one scope, and denies as long as nothing is registered. In any run of
checks and of policies without conditions, none of whose dimensions is named by the label
`**`, every check has the same verdict and every policy is added in both. -/
theorem replies_chain_eq_replies_double [Glob.SizeLimit] {resolver : ScopeResolver}
    {scope : ScopeId} (current : resolver.current? = some scope) (recording : Bool)
    {calls : List Call} (plain : ∀ call ∈ calls, call.IsPlain) :
    let chain : Chain Bookkeeper := ⟨[.new (.policies .empty) .recording]⟩
    let double : TestDouble := .new resolver ⟨false, recording⟩
    replies chain calls = replies double calls ∧
      ∀ result, .added result ∈ replies chain calls → result = .ok () := by
  intro chain double
  have ofChain : replies chain calls = storeReplies .empty calls :=
    Chain.decidesBy.replies_eq ⟨_, rfl, rfl, rfl⟩ plain
  have kept : TestDouble.Keeps scope double .empty := ⟨current, rfl, rfl⟩
  have ofDouble : replies double calls = storeReplies .empty calls :=
    (TestDouble.decidesBy scope).replies_eq kept plain
  rw [ofChain, ofDouble]
  exact ⟨rfl, fun result member => added_ok_of_mem_storeReplies member⟩

/-- A run in which policies leave a dimension open, empty it, and name several globs. The
second policy allows what nothing allowed before. -/
theorem replies_chain_eq_replies_double_of_two_policies :
    let resolver : ScopeResolver := .thread (some "suite")
    let deletions : Grant := ⟨.deny, none, some ["Delete*", "Drop?"], some []⟩
    let documents : Grant := ⟨.allow, some ["urn:**"], some [], some ["urn:::::document:*"]⟩
    let root : Urn := .ofId "root" "admin"
    let calls : List Call :=
      [.check ⟨root, "GetTest", none, []⟩, .addPolicy deletions none,
        .addPolicy documents none, .check ⟨root, "GetTest", some (.ofId "42" "document"), []⟩]
    let chain : Chain Bookkeeper := ⟨[.new (.policies .empty) .recording]⟩
    resolver.current? = some ⟨"suite"⟩ ∧ (∀ call ∈ calls, call.IsPlain) ∧
      replies chain calls =
        [.verdict false, .added (.ok ()), .added (.ok ()), .verdict true] ∧
      replies chain calls = replies (TestDouble.new resolver ⟨false, true⟩) calls ∧
      ∀ result, .added result ∈ replies chain calls → result = .ok () := by
  intro resolver deletions documents root calls chain
  have current : resolver.current? = some ⟨"suite"⟩ := by decide
  have plain : ∀ call ∈ calls, call.IsPlain := by
    have first : deletions.Unlabelled := ⟨by decide, by decide, by decide⟩
    have second : documents.Unlabelled := ⟨by decide, by decide, by decide⟩
    simp only [calls, List.forall_mem_cons]
    exact ⟨trivial, ⟨first, rfl⟩, ⟨second, rfl⟩, trivial, nofun⟩
  refine ⟨current, plain, ?_, replies_chain_eq_replies_double current true plain⟩
  dsimp only [chain, calls, deletions, documents, root]
  rfl

-- Named by the label, the same dimension is open for the chain and a glob for the double.
example :
    let calls : List Call :=
      [.addPolicy ⟨.allow, some ["**"], none, none⟩ none,
        .check ⟨.ofId "root" "admin", "GetTest", none, []⟩]
    replies (⟨[.new (.policies .empty) .recording]⟩ : Chain Bookkeeper) calls =
        [.added (.ok ()), .verdict true] ∧
      replies (TestDouble.new (.switchable (some ⟨"suite"⟩)) ⟨false, true⟩) calls =
        [.added (.ok ()), .verdict false] :=
  ⟨rfl, rfl⟩

end Engine

end Arbiter
