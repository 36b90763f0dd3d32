import Arbiter.Proofs.Chain.Decision
import Arbiter.Proofs.Chain.FanOut
import Arbiter.Proofs.Engine.Deletion
import Arbiter.Proofs.TestDouble.Run
import Arbiter.Proofs.Trace.Layers
import Arbiter.Voter.Stock
import Arbiter.Version

/-!
# Checks leave no mark

To check is to ask, and asking changes the books: voters count their calls, a test double
notes the actions and warns, and a layer of tracing keeps a record. Nothing of that has a
part in any later decision.

* `Voter.DecidesFrom`: a voter that decides from what it has accepted.
* `CountingVoter`: a voter that does not, although it always casts the same vote.
* `Chain.unseen`: a step of a chain of such voters.
* `TestDouble.Step` and `TestDouble.unseen`: a step of a test double.
* `Engine.checks_leave_no_mark`: runs of both kinds of engines, under any number of layers
  of tracing.
-/

namespace Arbiter

/-- What a voter answers, and what it will have accepted, depends on the request or the
policy at hand and on what it has accepted so far. Voting does not add to that. It would not
be enough if this held of the votes alone, as `CountingVoter` shows. -/
structure Voter.DecidesFrom {V P : Type} [Voter V] (accepted : V → P) : Prop where
  vote_accepted (v : V) (r : Request) : accepted (Voter.vote v r).state = accepted v
  vote {v w : V} : accepted v = accepted w →
    ∀ r, (Voter.vote v r).value = (Voter.vote w r).value
  acceptsPolicies {v w : V} : accepted v = accepted w →
    Voter.acceptsPolicies v = Voter.acceptsPolicies w
  submit {v w : V} : accepted v = accepted w → ∀ s,
    (Voter.submit v s).value = (Voter.submit w s).value ∧
      accepted (Voter.submit v s).state = accepted (Voter.submit w s).state
  reset {v w : V} : accepted v = accepted w →
    accepted (Voter.reset v) = accepted (Voter.reset w)

/-- A voter that always casts the same vote, and counts how often it is asked. It takes
policies only until it is asked for the first time. -/
structure CountingVoter where
  vote : Vote
  calls : Nat

instance : Voter CountingVoter where
  vote v _ := .silent { v with calls := v.calls + 1 } v.vote
  acceptsPolicies _ := true
  submit v _ := .silent v (if v.calls = 0 then .ok () else .error (.voter "already asked"))

def Engine.Call.isCheck : Engine.Call → Bool
  | .check _ => true
  | _ => false

/-! ## Chains -/

namespace Chain

/-- What each voter of a chain has accepted. -/
def acceptedBy {V P : Type} (accepted : V → P) (c : Chain V) : List P :=
  c.voters.map accepted

/-- Two lists of voters, each of which has accepted what its counterpart has. -/
def Alike {V P : Type} (accepted : V → P) : List V → List V → Prop :=
  List.Forall₂ fun v w => accepted v = accepted w

theorem alike_iff_map_eq {V P : Type} {accepted : V → P} {voters others : List V} :
    Alike accepted voters others ↔ voters.map accepted = others.map accepted := by
  rw [← List.forall₂_eq_eq_eq, List.forall₂_map_left_iff, List.forall₂_map_right_iff, Alike]

variable {V P : Type} [Voter V] {accepted : V → P} (decides : Voter.DecidesFrom accepted)

include decides

theorem acceptedBy_check (c : Chain V) (r : Request) :
    (c.check r).state.acceptedBy accepted = c.acceptedBy accepted := by
  have asked : (fun v => accepted (Voter.vote v r).state) = accepted :=
    funext fun v => decides.vote_accepted v r
  rw [acceptedBy, check_state, List.map_append, List.map_map, Function.comp_def, asked,
    ← List.map_append, consulted, spared, List.take_append_drop, acceptedBy]

section

variable {voters others : List V} (alike : Alike accepted voters others)

include alike

theorem verdict?_alike (r : Request) : verdict? r voters = verdict? r others := by
  induction alike with
  | nil => rfl
  | cons same _ ih => rw [verdict?_cons, verdict?_cons, decides.vote same r, ih]

/-- A policy goes out alike: a voter breaks on it, takes it or is passed over as its
counterpart is. -/
theorem submitAll_alike (s : Submission) :
    (submitAll s voters).value = (submitAll s others).value ∧
      Alike accepted (submitAll s voters).state (submitAll s others).state := by
  induction alike with
  | nil => exact ⟨rfl, .nil⟩
  | @cons v w voters others same later ih =>
    obtain ⟨value, state⟩ := ih
    obtain ⟨given, left⟩ := decides.submit same s
    have accepts := decides.acceptsPolicies same
    have breaks : breaksOn s v = breaksOn s w := by rw [breaksOn, breaksOn, accepts, given]
    cases broken : breaksOn s w with
    | true =>
      obtain ⟨e, failed, -, round⟩ := submitAll_cons_of_breaks voters (breaks.trans broken)
      obtain ⟨e', failed', -, round'⟩ := submitAll_cons_of_breaks others broken
      obtain rfl : e = e' := Except.error.inj (failed.symm.trans (given.trans failed'))
      rw [round, round']
      exact ⟨rfl, .cons left later⟩
    | false =>
      cases taken : Voter.acceptsPolicies w with
      | true =>
        rw [submitAll_cons_of_goes_on voters (accepts.trans taken) (breaks.trans broken),
          submitAll_cons_of_goes_on others taken broken]
        exact ⟨congrArg (Except.map (· + 1)) value, .cons left state⟩
      | false =>
        rw [submitAll_cons_of_closed voters (accepts.trans taken),
          submitAll_cons_of_closed others taken]
        exact ⟨value, .cons same state⟩

end

variable {c d : Chain V} (same : c.acceptedBy accepted = d.acceptedBy accepted)

include same

theorem addPolicy_alike (g : Grant) (conditions : Option Conditions) :
    (c.addPolicy g conditions).value = (d.addPolicy g conditions).value ∧
      (c.addPolicy g conditions).state.acceptedBy accepted =
        (d.addPolicy g conditions).state.acceptedBy accepted := by
  obtain ⟨value, state⟩ := submitAll_alike decides (alike_iff_map_eq.mpr same)
    (.ofGrant g conditions)
  have left := alike_iff_map_eq.mp state
  simp only [addPolicy, value]
  cases (submitAll (.ofGrant g conditions) d.voters).value with
  | error e => exact ⟨rfl, left⟩
  | ok capable =>
    cases capable with
    | zero => exact ⟨rfl, left⟩
    | succ others => exact ⟨rfl, left⟩

theorem acceptedBy_reset : c.reset.acceptedBy accepted = d.reset.acceptedBy accepted := by
  have voters : Alike accepted c.voters d.voters := alike_iff_map_eq.mpr same
  apply alike_iff_map_eq.mp
  exact List.forall₂_map_left_iff.mpr
    (List.forall₂_map_right_iff.mpr (voters.imp fun _ _ same => decides.reset same))

omit same

/-- A step of a chain. -/
theorem unseen : Unseen (σ := Chain V) Engine.perform Engine.Call.isCheck
    (acceptedBy accepted) where
  check c call check := by
    cases call with
    | check r => exact acceptedBy_check decides c r
    | _ => cases check
  value {c d} same call := by
    cases call with
    | check r =>
      have verdict : (c.check r).value = (d.check r).value := by
        rw [check_value, check_value, verdict?_alike decides (alike_iff_map_eq.mpr same)]
      exact congrArg Engine.Reply.verdict verdict
    | addPolicy g conditions =>
      exact congrArg Engine.Reply.added (addPolicy_alike decides same g conditions).1
    | reset => rfl
  state {c d} same call := by
    cases call with
    | check r =>
      have before := acceptedBy_check decides c r
      exact before.trans (same.trans (acceptedBy_check decides d r).symm)
    | addPolicy g conditions => exact (addPolicy_alike decides same g conditions).2
    | reset => exact acceptedBy_reset decides same

end Chain

/-! ## Test doubles -/

namespace TestDouble

def Operation.isCheck : Operation → Bool
  | .check _ => true
  | .checkIn _ _ => true
  | _ => false

/-- A call to an engine, as an operation of a test double. -/
def Operation.ofCall : Engine.Call → Operation
  | .check r => .check r
  | .addPolicy g conditions => .addPolicy g conditions
  | .reset => .reset

def Reply.ofReply : Engine.Reply → Reply
  | .verdict allowed => .verdict allowed
  | .added result => .added result
  | .done => .done

/-- A test double without its notes: the checked actions, and the number of usage
warnings. -/
def unnoted (d : TestDouble) : TestDouble :=
  { d with checkedActions := [], usageWarnings := 0 }

theorem recordAction_unnoted (d : TestDouble) (action : String) :
    (d.recordAction action).unnoted = d.unnoted := by
  rw [recordAction]
  split <;> rfl

/-- A check changes the notes only, and its verdict does not depend on them. -/
theorem check_unnoted (d : TestDouble) (r : Request) :
    (d.unnoted.check r).value = (d.check r).value ∧ (d.check r).state.unnoted = d.unnoted := by
  simp only [check, currentScope?, unnoted]
  cases d.resolver.current? with
  | none => exact ⟨rfl, rfl⟩
  | some scope => exact ⟨rfl, recordAction_unnoted d r.action⟩

theorem carryOut_check_unnoted [Glob.SizeLimit] (d : TestDouble) {operation : Operation}
    (check : operation.isCheck = true) : (carryOut d operation).state.unnoted = d.unnoted := by
  cases operation with
  | check r => exact (check_unnoted d r).2
  | checkIn scope r => exact recordAction_unnoted d r.action
  | _ => cases check

theorem addGrant_unnoted [Glob.SizeLimit] (d : TestDouble) (g : Grant) :
    (d.unnoted.addGrant g).state.unnoted = (d.addGrant g).state.unnoted := by
  simp only [addGrant, currentScope?, unnoted]
  cases d.resolver.current? with
  | none => rfl
  | some scope => rfl

theorem setDefault_unnoted (d : TestDouble) (allow : Bool) :
    (d.unnoted.setDefault allow).state.unnoted = (d.setDefault allow).state.unnoted := by
  simp only [setDefault, currentScope?, unnoted]
  cases d.resolver.current? with
  | none => rfl
  | some scope => rfl

/-- No operation depends on the notes. -/
theorem carryOut_unnoted [Glob.SizeLimit] (d : TestDouble) (operation : Operation) :
    (carryOut d.unnoted operation).value = (carryOut d operation).value ∧
      (carryOut d.unnoted operation).state.unnoted = (carryOut d operation).state.unnoted := by
  cases operation with
  | check r =>
    obtain ⟨verdict, after⟩ := check_unnoted d r
    exact ⟨congrArg Reply.verdict verdict, (check_unnoted d.unnoted r).2.trans after.symm⟩
  | checkIn scope r =>
    have after := recordAction_unnoted d r.action
    exact ⟨rfl, (recordAction_unnoted d.unnoted r.action).trans after.symm⟩
  | addGrant g => exact ⟨rfl, addGrant_unnoted d g⟩
  | addPolicy g conditions =>
    cases conditions with
    | none => exact ⟨rfl, addGrant_unnoted d g⟩
    | some conditions => exact ⟨rfl, rfl⟩
  | setDefault allow => exact ⟨rfl, setDefault_unnoted d allow⟩
  | _ => exact ⟨rfl, rfl⟩

/-- What happens to a test double, under layers of tracing or not. -/
inductive Step where
  /-- The resolver says something else from now on. -/
  | resolve (resolver : ScopeResolver)
  /-- A call to the outermost layer. -/
  | outer (call : Engine.Call)
  /-- An operation of the test double itself. -/
  | own (operation : Operation)
  | policyCount (scope : ScopeId)

inductive Answer where
  | reply (reply : Reply)
  | count (policies : Nat)

def Step.isCheck : Step → Bool
  | .outer call => call.isCheck
  | .own operation => operation.isCheck
  | _ => false

/-- A step of a test double without any layer around it. -/
def follow [Glob.SizeLimit] (d : TestDouble) : Step → Outcome TestDouble Answer
  | .resolve resolver => .silent { d with resolver := resolver } (.reply .done)
  | .outer call => (carryOut d (.ofCall call)).mapValue .reply
  | .own operation => (carryOut d operation).mapValue .reply
  | .policyCount scope => .silent d (.count (d.policyCount scope))

theorem follow_unnoted [Glob.SizeLimit] (d : TestDouble) (step : Step) :
    (follow d.unnoted step).value = (follow d step).value ∧
      (follow d.unnoted step).state.unnoted = (follow d step).state.unnoted := by
  cases step with
  | resolve resolver => exact ⟨rfl, rfl⟩
  | outer call =>
    obtain ⟨value, state⟩ := carryOut_unnoted d (.ofCall call)
    exact ⟨congrArg Answer.reply value, state⟩
  | own operation =>
    obtain ⟨value, state⟩ := carryOut_unnoted d operation
    exact ⟨congrArg Answer.reply value, state⟩
  | policyCount scope => exact ⟨rfl, rfl⟩

/-- A step of a test double. -/
theorem unseen [Glob.SizeLimit] : Unseen follow Step.isCheck unnoted where
  check d step check := by
    cases step with
    | outer call =>
      have asks : (Operation.ofCall call).isCheck = true := by
        cases call with
        | check r => rfl
        | _ => cases check
      exact carryOut_check_unnoted d asks
    | own operation => exact carryOut_check_unnoted d check
    | _ => cases check
  value {d e} same step := by
    rw [← (follow_unnoted d step).1, same, (follow_unnoted e step).1]
  state {d e} same step := by
    rw [← (follow_unnoted d step).2, same, (follow_unnoted e step).2]

/-- A call to an engine is an operation of the test double. -/
theorem perform_ofCall [Glob.SizeLimit] (d : TestDouble) (call : Engine.Call) :
    Reply.ofReply (Engine.perform d call).value = (carryOut d (.ofCall call)).value ∧
      (Engine.perform d call).state = (carryOut d (.ofCall call)).state := by
  cases call with
  | check r => exact ⟨rfl, rfl⟩
  | addPolicy g conditions => exact ⟨rfl, rfl⟩
  | reset => exact ⟨rfl, rfl⟩

end TestDouble

namespace Tower

variable {S : Type} [Sink S] {height : Nat}

/-- A step of a test double under layers of tracing. The layers see the calls to the
outermost one only. -/
def follow [Glob.SizeLimit] (t : Tower TestDouble S height) :
    TestDouble.Step → Outcome (Tower TestDouble S height) TestDouble.Answer
  | .outer call => (Engine.perform t call).mapValue fun reply => .reply (.ofReply reply)
  | step => t.onCore fun d => d.follow step

theorem follow_core [Glob.SizeLimit] (t : Tower TestDouble S height) (step : TestDouble.Step) :
    (t.follow step).value = (t.core.follow step).value ∧
      (t.follow step).state.core = (t.core.follow step).state ∧
      (t.follow step).state.settings = t.settings := by
  cases step with
  | outer call =>
    obtain ⟨value, state, settings⟩ := t.perform_core call
    obtain ⟨answer, left⟩ := t.core.perform_ofCall call
    have reply := (congrArg TestDouble.Reply.ofReply value).trans answer
    exact ⟨congrArg TestDouble.Answer.reply reply, state.trans left, settings⟩
  | _ => exact t.onCore_core _

end Tower

/-! ## Stock voters -/

/-- The books of a voter without its number of calls. -/
def Bookkeeper.uncounted (v : Bookkeeper) : Bookkeeper :=
  { v with calls := 0 }

def DefaultVoter.uncounted (v : DefaultVoter) : DefaultVoter :=
  { v with calls := 0 }

def StockVoter.uncounted : StockVoter → StockVoter
  | .static v => .static v
  | .default v => .default v.uncounted
  | .bookkeeper v => .bookkeeper v.uncounted

theorem Bookkeeper.decidesFrom [Glob.SizeLimit] : Voter.DecidesFrom Bookkeeper.uncounted where
  vote_accepted v r := rfl
  vote same r := congrArg (fun v => v.rule.vote r) same
  acceptsPolicies same := congrArg (fun v => v.admission != .closed) same
  submit {v w} same s := by
    rcases v with ⟨rule, admission, calls, recorded, resets⟩
    rcases w with ⟨rule', admission', calls', recorded', resets'⟩
    cases same
    cases admission with
    | recording => exact ⟨rfl, rfl⟩
    | unsupported reason => exact ⟨rfl, rfl⟩
    | failing reason => exact ⟨rfl, rfl⟩
    | closed => exact ⟨rfl, rfl⟩
  reset same := congrArg (fun v => { v with resets := v.resets + 1 }) same

theorem DefaultVoter.decidesFrom : Voter.DecidesFrom DefaultVoter.uncounted where
  vote_accepted _ _ := rfl
  vote same _ := (DefaultVoter.mk.inj same).1
  acceptsPolicies _ := rfl
  submit same _ := ⟨rfl, same⟩
  reset same := same

/-- Stock voters that are the same but for their calls are of one kind. -/
theorem StockVoter.of_uncounted_eq {v w : StockVoter} (same : v.uncounted = w.uncounted) :
    (∃ s, v = .static s ∧ w = .static s) ∨
      (∃ a b, v = .default a ∧ w = .default b ∧ a.uncounted = b.uncounted) ∨
      ∃ a b, v = .bookkeeper a ∧ w = .bookkeeper b ∧ a.uncounted = b.uncounted := by
  cases v with
  | static s =>
    cases w with
    | static s' => exact .inl ⟨s, rfl, same.symm⟩
    | _ => cases same
  | default a =>
    cases w with
    | default b => exact .inr (.inl ⟨a, b, rfl, rfl, StockVoter.default.inj same⟩)
    | _ => cases same
  | bookkeeper a =>
    cases w with
    | bookkeeper b => exact .inr (.inr ⟨a, b, rfl, rfl, StockVoter.bookkeeper.inj same⟩)
    | _ => cases same

/-- Stock voters decide from everything but their numbers of calls. -/
theorem StockVoter.decidesFrom [Glob.SizeLimit] : Voter.DecidesFrom StockVoter.uncounted where
  vote_accepted v r := by
    cases v with
    | static v => rfl
    | default v => rfl
    | bookkeeper v => rfl
  vote same r := by
    rcases of_uncounted_eq same with ⟨s, rfl, rfl⟩ | ⟨a, b, rfl, rfl, own⟩ | ⟨a, b, rfl, rfl, own⟩
    · rfl
    · exact DefaultVoter.decidesFrom.vote own r
    · exact Bookkeeper.decidesFrom.vote own r
  acceptsPolicies same := by
    rcases of_uncounted_eq same with ⟨s, rfl, rfl⟩ | ⟨a, b, rfl, rfl, own⟩ | ⟨a, b, rfl, rfl, own⟩
    · rfl
    · rfl
    · exact Bookkeeper.decidesFrom.acceptsPolicies own
  submit same s := by
    rcases of_uncounted_eq same with ⟨t, rfl, rfl⟩ | ⟨a, b, rfl, rfl, own⟩ | ⟨a, b, rfl, rfl, own⟩
    · exact ⟨rfl, rfl⟩
    · exact ⟨rfl, congrArg StockVoter.default own⟩
    · obtain ⟨value, state⟩ := Bookkeeper.decidesFrom.submit own s
      exact ⟨value, congrArg StockVoter.bookkeeper state⟩
  reset same := by
    rcases of_uncounted_eq same with ⟨s, rfl, rfl⟩ | ⟨a, b, rfl, rfl, own⟩ | ⟨a, b, rfl, rfl, own⟩
    · rfl
    · exact congrArg StockVoter.default own
    · exact congrArg StockVoter.bookkeeper (Bookkeeper.decidesFrom.reset own)

/-! ## Engines under layers of tracing -/

namespace Engine

/-- **Checks leave no mark.** Take a chain of voters each of which decides from what it has
accepted, or a test double whose resolver may say something else at any time, and any
number of layers of tracing around it.

* From any state, checks may be deleted from a run, and what remains answers as before.
* Runs that differ only in where and how often they check have the same answers to
  everything else. What they leave agrees in what the voters have accepted, in everything
  but the notes of the test double, and in the settings of all layers.
* So they have the same answers to everything that follows. -/
theorem checks_leave_no_mark [Glob.SizeLimit] {V P S : Type} [Voter V] [Sink S] {accepted : V → P}
    (decides : Voter.DecidesFrom accepted) (height : Nat) :
    ChecksUnseen (σ := Tower (Chain V) S height) perform Call.isCheck
        (fun t => (t.core.acceptedBy accepted, t.settings)) ∧
      ChecksUnseen (σ := Tower TestDouble S height) Tower.follow TestDouble.Step.isCheck
        (fun t => (t.core.unnoted, t.settings)) := by
  constructor
  · exact ((Chain.unseen decides).lift Tower.perform_core).checksUnseen
  · exact (TestDouble.unseen.lift Tower.follow_core).checksUnseen

/-- A chain of a store and a voter with one vote, under two layers. The check between the
two policies is deleted, and the last check is not. -/
theorem checks_leave_no_mark_on_store :
    let store : StockVoter := .bookkeeper (.new (.policies .empty) .recording)
    let chain : Chain StockVoter := ⟨[store, .static ⟨.granted⟩]⟩
    let inner : Traced (Chain StockVoter) StockSink := ⟨chain, .new (.memory ⟨[]⟩) ⟨true⟩⟩
    let tower : Tower (Chain StockVoter) StockSink 2 :=
      (⟨inner, .new (.counting ⟨0⟩) ⟨false⟩⟩ : Traced _ _)
    let removal : Request := ⟨.ofId "root" "admin", "Remove", none, []⟩
    let calls : List Call :=
      [.addPolicy ⟨.deny, none, some ["Remove*"], none⟩ none, .check removal,
        .addPolicy ⟨.allow, none, none, none⟩ (some []), .check removal]
    Run.answers perform tower (kept [true, false, true, true] calls) =
      kept [true, false, true, true] (Run.answers perform tower calls) := by
  intro store chain inner tower removal calls
  have checks : List.Forall₂ (fun keep op => keep = false → Call.isCheck op = true)
      [true, false, true, true] calls :=
    .cons nofun (.cons (fun _ => rfl) (.cons nofun (.cons nofun .nil)))
  exact (checks_leave_no_mark StockVoter.decidesFrom 2).1.deletion tower checks

/-- The votes of a counting voter depend on nothing at all, but a check that is deleted changes
the result of the policy behind it. Every check is also reported. -/
theorem checks_mark_counting_voter :
    let chain : Chain CountingVoter := ⟨[⟨.granted, 0⟩]⟩
    let read : Request := ⟨.ofId "user" "alice", "Read", none, []⟩
    let policy : Call := .addPolicy ⟨.allow, none, none, none⟩ none
    (∀ (v : CountingVoter) (r : Request) (s : Submission),
        (Voter.vote v r).value = v.vote ∧ (Voter.vote v r).state.vote = v.vote ∧
          (Voter.submit v s).state.vote = v.vote ∧ (Voter.reset v).vote = v.vote) ∧
      Run.answers perform chain [.check read, policy] =
        [.verdict true, .added (.error (.voter "already asked"))] ∧
      Run.answers perform chain [policy] = [.added (.ok ())] ∧
      (perform chain (.check read)).events =
        [.voterDecided 0 .granted "Read" (.ofId "user" "alice")] :=
  ⟨fun _ _ _ => ⟨rfl, rfl, rfl, rfl⟩, rfl, rfl, rfl⟩

end Engine

end Arbiter
