import Arbiter.Chain
import Mathlib.Data.List.Basic

/-!
# How a policy goes out to a chain

A policy is handed to the voters of a chain one after another. The round ends at
the first voter that breaks on it, that is, that takes policies and fails for
another reason than lack of support.

* `Chain.breakPoint`: the position of that voter.
* `Chain.handed`: the voters that the policy is handed to, in order.
* `Chain.submitAll_state` and `Chain.submitAll_events`: what a round does to the
  voters, and what it reports.
* `Audited`: a voter that keeps a list of what it has been handed.
* `Chain.addPolicy_fanOut`: who is handed a policy, and what becomes of it.
-/

namespace Arbiter

/-- A voter that keeps a list of everything that has been submitted to it. -/
structure Audited (V : Type) where
  voter : V
  received : List Submission

instance {V : Type} [Voter V] : Voter (Audited V) where
  vote a r := (Voter.vote a.voter r).mapState fun v => ⟨v, a.received⟩
  acceptsPolicies a := Voter.acceptsPolicies a.voter
  submit a s := (Voter.submit a.voter s).mapState fun v => ⟨v, a.received ++ [s]⟩
  reset a := ⟨Voter.reset a.voter, a.received⟩

namespace Chain

variable {V : Type} [Voter V]

/-- Whether an answer is a failure for another reason than lack of support. -/
def isFailure : Except PolicyError Unit → Bool
  | .ok () => false
  | .error e => !e.isUnsupported

/-- Whether a voter takes policies and fails for another reason than lack of
support. -/
def breaksOn (s : Submission) (v : V) : Bool :=
  Voter.acceptsPolicies v && isFailure (Voter.submit v s).value

/-- The position of the first voter that breaks, or the number of voters if none
does. -/
def breakPoint (s : Submission) (voters : List V) : Nat :=
  voters.findIdx (breaksOn s)

/-- The voters that a submission is handed to, in order. -/
def handed (s : Submission) (voters : List V) : List V :=
  (voters.take (breakPoint s voters + 1)).filter Voter.acceptsPolicies

/-- What the chain adds to the events of a voter that could not honour a policy. -/
def declineReport (s : Submission) : Except PolicyError Unit → List Event
  | .error (.unsupported reason) => [.policyDeclined s.effect reason]
  | _ => []

/-- What the chain reports of a policy that it has added. -/
def additionReport (s : Submission) (capable : Nat) : Except PolicyError Unit → List Event
  | .ok () => [.policyAdded s.effect s.subjects s.actions s.resources capable]
  | .error _ => []

/-! ## One voter -/

theorem submitAll_cons_of_closed {s : Submission} {v : V} (rest : List V)
    (closed : Voter.acceptsPolicies v = false) :
    submitAll s (v :: rest) =
      ⟨(submitAll s rest).value, v :: (submitAll s rest).state, (submitAll s rest).events⟩ := by
  rw [submitAll, if_neg (by simp [closed])]

/-- A voter that breaks ends the round with its own error. -/
theorem submitAll_cons_of_breaks {s : Submission} {v : V} (rest : List V)
    (breaks : breaksOn s v = true) :
    ∃ e, (Voter.submit v s).value = .error e ∧ e.isUnsupported = false ∧
      submitAll s (v :: rest) =
        ⟨.error e, (Voter.submit v s).state :: rest, (Voter.submit v s).events⟩ := by
  rw [breaksOn, Bool.and_eq_true] at breaks
  obtain ⟨accepts, ended⟩ := breaks
  rcases given : (Voter.submit v s).value with (reason | reason) | ⟨⟩
  · rw [given] at ended
    cases ended
  · refine ⟨.voter reason, rfl, rfl, ?_⟩
    simp only [submitAll, if_pos accepts, given]
  · rw [given] at ended
    cases ended

/-- Any other voter is handed the policy, and the round goes on. -/
theorem submitAll_cons_of_goes_on {s : Submission} {v : V} (rest : List V)
    (accepts : Voter.acceptsPolicies v = true) (goesOn : breaksOn s v = false) :
    submitAll s (v :: rest) =
      ⟨(submitAll s rest).value.map (· + 1),
        (Voter.submit v s).state :: (submitAll s rest).state,
        (Voter.submit v s).events ++ declineReport s (Voter.submit v s).value ++
          (submitAll s rest).events⟩ := by
  rw [breaksOn, accepts, Bool.true_and] at goesOn
  rcases given : (Voter.submit v s).value with (reason | reason) | ⟨⟩
  · simp only [submitAll, if_pos accepts, given, declineReport, List.append_assoc,
      List.singleton_append]
  · rw [given] at goesOn
    cases goesOn
  · simp only [submitAll, if_pos accepts, given, declineReport, List.append_nil]

/-! ## A whole round -/

theorem breakPoint_cons_of_breaks {s : Submission} {v : V} (rest : List V)
    (breaks : breaksOn s v = true) : breakPoint s (v :: rest) = 0 := by
  rw [breakPoint, List.findIdx_cons, breaks]
  rfl

theorem breakPoint_cons_of_goes_on {s : Submission} {v : V} (rest : List V)
    (goesOn : breaksOn s v = false) :
    breakPoint s (v :: rest) = breakPoint s rest + 1 := by
  rw [breakPoint, List.findIdx_cons, goesOn]
  rfl

theorem accepts_of_breaksOn {s : Submission} {v : V} (breaks : breaksOn s v = true) :
    Voter.acceptsPolicies v = true := by
  rw [breaksOn, Bool.and_eq_true] at breaks
  exact breaks.1

theorem breaksOn_of_closed {v : V} (s : Submission)
    (closed : Voter.acceptsPolicies v = false) : breaksOn s v = false := by
  rw [breaksOn, closed, Bool.false_and]

/-- A voter after the round: handed the policy once if it takes policies and stands at
or before the break, and as it was otherwise. -/
def afterRound (s : Submission) (last position : Nat) (v : V) : V :=
  if Voter.acceptsPolicies v = true ∧ position ≤ last then (Voter.submit v s).state else v

theorem afterRound_succ (s : Submission) (last : Nat) :
    (fun position => afterRound s (last + 1) (position + 1)) = afterRound (V := V) s last := by
  funext position v
  simp only [afterRound, Nat.add_le_add_iff_right]

/-- Behind a voter that breaks, all voters are as they were. -/
theorem mapIdx_afterRound_zero (s : Submission) (voters : List V) :
    voters.mapIdx (fun position => afterRound s 0 (position + 1)) = voters := by
  have untouched (position : Nat) : afterRound (V := V) s 0 (position + 1) = id := by
    funext v
    exact if_neg fun both => Nat.not_succ_le_zero position both.2
  rw [List.mapIdx_eq_iff]
  intro i
  rw [untouched, Option.map_id, id]

/-- What a round does to the voters. -/
theorem submitAll_state (s : Submission) (voters : List V) :
    (submitAll s voters).state = voters.mapIdx (afterRound s (breakPoint s voters)) := by
  induction voters with
  | nil => rfl
  | cons v rest ih =>
    rw [List.mapIdx_cons]
    cases breaks : breaksOn s v with
    | true =>
      obtain ⟨e, -, -, round⟩ := submitAll_cons_of_breaks rest breaks
      rw [round, breakPoint_cons_of_breaks rest breaks, mapIdx_afterRound_zero, afterRound,
        if_pos ⟨accepts_of_breaksOn breaks, Nat.le_refl 0⟩]
    | false =>
      rw [breakPoint_cons_of_goes_on rest breaks, afterRound_succ]
      cases accepts : Voter.acceptsPolicies v with
      | true =>
        rw [submitAll_cons_of_goes_on rest accepts breaks, ih, afterRound,
          if_pos ⟨accepts, Nat.zero_le _⟩]
      | false =>
        rw [submitAll_cons_of_closed rest accepts, ih, afterRound, if_neg (by simp [accepts])]

/-- A round that meets a voter that breaks ends with the error of that voter. -/
theorem submitAll_value_of_break {s : Submission} {voters : List V} {v : V}
    (at_break : voters[breakPoint s voters]? = some v) :
    ∃ e, (Voter.submit v s).value = .error e ∧ e.isUnsupported = false ∧
      (submitAll s voters).value = .error e := by
  induction voters with
  | nil => cases at_break
  | cons w rest ih =>
    cases breaks : breaksOn s w with
    | true =>
      rw [breakPoint_cons_of_breaks rest breaks] at at_break
      cases at_break
      obtain ⟨e, failed, hard, round⟩ := submitAll_cons_of_breaks rest breaks
      exact ⟨e, failed, hard, by rw [round]⟩
    | false =>
      rw [breakPoint_cons_of_goes_on rest breaks] at at_break
      obtain ⟨e, failed, hard, later⟩ := ih at_break
      refine ⟨e, failed, hard, ?_⟩
      cases accepts : Voter.acceptsPolicies w with
      | true =>
        rw [submitAll_cons_of_goes_on rest accepts breaks, later]
        rfl
      | false => rw [submitAll_cons_of_closed rest accepts, later]

/-- A round that meets no such voter counts the voters that take policies. -/
theorem submitAll_value_of_no_break {s : Submission} {voters : List V}
    (no_break : voters[breakPoint s voters]? = none) :
    (submitAll s voters).value = .ok (voters.countP Voter.acceptsPolicies) := by
  induction voters with
  | nil => rfl
  | cons v rest ih =>
    cases breaks : breaksOn s v with
    | true =>
      rw [breakPoint_cons_of_breaks rest breaks] at no_break
      cases no_break
    | false =>
      rw [breakPoint_cons_of_goes_on rest breaks] at no_break
      have later := ih no_break
      cases accepts : Voter.acceptsPolicies v with
      | true =>
        rw [submitAll_cons_of_goes_on rest accepts breaks, later,
          List.countP_cons_of_pos accepts]
        rfl
      | false =>
        rw [submitAll_cons_of_closed rest accepts, later,
          List.countP_cons_of_neg (by simp [accepts])]

/-! ### The voters that the policy is handed to -/

theorem handed_cons_of_breaks {s : Submission} {v : V} (rest : List V)
    (breaks : breaksOn s v = true) : handed s (v :: rest) = [v] := by
  rw [handed, breakPoint_cons_of_breaks rest breaks, List.take_succ_cons, List.take_zero,
    List.filter_cons_of_pos (accepts_of_breaksOn breaks), List.filter_nil]

theorem handed_cons_of_goes_on {s : Submission} {v : V} (rest : List V)
    (accepts : Voter.acceptsPolicies v = true) (goesOn : breaksOn s v = false) :
    handed s (v :: rest) = v :: handed s rest := by
  rw [handed, breakPoint_cons_of_goes_on rest goesOn, List.take_succ_cons,
    List.filter_cons_of_pos accepts, handed]

theorem handed_cons_of_closed (s : Submission) {v : V} (rest : List V)
    (closed : Voter.acceptsPolicies v = false) : handed s (v :: rest) = handed s rest := by
  rw [handed, breakPoint_cons_of_goes_on rest (breaksOn_of_closed s closed),
    List.take_succ_cons, List.filter_cons_of_neg (by simp [closed]), handed]

/-- A voter that breaks has not merely declined. -/
theorem declineReport_of_hard {s : Submission} {e : PolicyError}
    (hard : e.isUnsupported = false) : declineReport s (.error e) = [] := by
  cases e with
  | unsupported reason => cases hard
  | voter reason => rfl

/-- What a round reports: the events of the voters that the policy is handed to, in
order. -/
theorem submitAll_events (s : Submission) (voters : List V) :
    (submitAll s voters).events =
      (handed s voters).flatMap fun v =>
        (Voter.submit v s).events ++ declineReport s (Voter.submit v s).value := by
  induction voters with
  | nil => rfl
  | cons v rest ih =>
    cases breaks : breaksOn s v with
    | true =>
      obtain ⟨e, failed, hard, round⟩ := submitAll_cons_of_breaks rest breaks
      rw [round, handed_cons_of_breaks rest breaks, List.flatMap_singleton, failed,
        declineReport_of_hard hard, List.append_nil]
    | false =>
      cases accepts : Voter.acceptsPolicies v with
      | true =>
        rw [submitAll_cons_of_goes_on rest accepts breaks, ih,
          handed_cons_of_goes_on rest accepts breaks, List.flatMap_cons]
      | false =>
        rw [submitAll_cons_of_closed rest accepts, ih, handed_cons_of_closed s rest accepts]

/-! ## Adding a policy -/

/-- A chain with a voter that breaks answers with the error of that voter. -/
theorem addPolicy_of_break {c : Chain V} {g : Grant} {conditions : Option Conditions} {v : V}
    (at_break : c.voters[breakPoint (.ofGrant g conditions) c.voters]? = some v) :
    ∃ e, (Voter.submit v (.ofGrant g conditions)).value = .error e ∧
      e.isUnsupported = false ∧
      c.addPolicy g conditions =
        ⟨.error e, ⟨(submitAll (.ofGrant g conditions) c.voters).state⟩,
          (submitAll (.ofGrant g conditions) c.voters).events⟩ := by
  obtain ⟨e, failed, hard, value⟩ := submitAll_value_of_break at_break
  refine ⟨e, failed, hard, ?_⟩
  simp only [addPolicy, value]

/-- A chain without such a voter answers well if some voter takes policies. -/
theorem addPolicy_of_no_break {c : Chain V} {g : Grant} {conditions : Option Conditions}
    (no_break : c.voters[breakPoint (.ofGrant g conditions) c.voters]? = none) :
    let s := Submission.ofGrant g conditions
    c.addPolicy g conditions =
      if c.voters.any Voter.acceptsPolicies then
        ⟨.ok (), ⟨(submitAll s c.voters).state⟩,
          (submitAll s c.voters).events ++
            [.policyAdded s.effect s.subjects s.actions s.resources
              (c.voters.countP Voter.acceptsPolicies)]⟩
      else
        ⟨.error (.unsupported "No voter is able to add the specified policy"),
          ⟨(submitAll s c.voters).state⟩, (submitAll s c.voters).events⟩ := by
  have value := submitAll_value_of_no_break no_break
  simp only [addPolicy, value]
  rcases capable : c.voters.countP Voter.acceptsPolicies with _ | n
  · have nobody : ¬ c.voters.any Voter.acceptsPolicies = true := by
      rw [List.any_eq_true]
      rintro ⟨v, member, accepts⟩
      exact List.countP_eq_zero.mp capable v member accepts
    rw [if_neg nobody]
    rfl
  · have somebody : c.voters.any Voter.acceptsPolicies = true := by
      rw [List.any_eq_true]
      exact List.countP_pos_iff.mp (by omega)
    rw [if_pos somebody]
    rfl

theorem addPolicy_state (c : Chain V) (g : Grant) (conditions : Option Conditions) :
    (c.addPolicy g conditions).state.voters =
      c.voters.mapIdx (afterRound (.ofGrant g conditions)
        (breakPoint (.ofGrant g conditions) c.voters)) := by
  rw [← submitAll_state]
  unfold addPolicy
  dsimp only
  split <;> rfl

theorem breakPoint_audited (s : Submission) (voters : List V) :
    breakPoint s (voters.map fun v => (⟨v, []⟩ : Audited V)) = breakPoint s voters :=
  List.findIdx_map ..

/-- Each audited voter is handed the policy at most once, and it is the same for all. -/
theorem addPolicy_audited (c : Chain V) (g : Grant) (conditions : Option Conditions) :
    let s := Submission.ofGrant g conditions
    (addPolicy ⟨c.voters.map fun v => (⟨v, []⟩ : Audited V)⟩ g conditions).state.voters =
      c.voters.mapIdx (fun position v =>
        if Voter.acceptsPolicies v = true ∧ position ≤ breakPoint s c.voters then
          ⟨(Voter.submit v s).state, [s]⟩
        else ⟨v, []⟩) := by
  intro s
  rw [addPolicy_state, breakPoint_audited, List.mapIdx_eq_iff]
  intro i
  rw [List.getElem?_mapIdx, List.getElem?_map, Option.map_map]
  -- Submitting to an audited voter submits to the voter inside and notes it.
  rfl

/-- What a chain reports when a policy is added. -/
theorem addPolicy_events (c : Chain V) (g : Grant) (conditions : Option Conditions) :
    let s := Submission.ofGrant g conditions
    (c.addPolicy g conditions).events =
      (handed s c.voters).flatMap (fun v =>
        (Voter.submit v s).events ++ declineReport s (Voter.submit v s).value) ++
        additionReport s (c.voters.countP Voter.acceptsPolicies)
          (c.addPolicy g conditions).value := by
  intro s
  rw [← submitAll_events]
  cases found : c.voters[breakPoint s c.voters]? with
  | some v =>
    obtain ⟨e, -, -, added⟩ := addPolicy_of_break found
    rw [added, additionReport, List.append_nil]
  | none =>
    rw [addPolicy_of_no_break found]
    split
    · rfl
    · rw [additionReport, List.append_nil]

/-- **The fan-out of a policy.** Let `k` be the position of the first voter that takes
policies and fails for another reason than lack of support, or the length of the chain
if there is none.

* The answer is the error of that voter; without one it is good if some voter takes
  policies, whatever they answered, and a lack of support otherwise.
* Every voter up to `k` that takes policies is handed the policy once. All others are as
  they were.
* A record kept with each voter shows one and the same submission: the effect, each
  dimension as a list that is the label `**` if it was left open, and the conditions.
* The events are those of the voters that were handed the policy, in the order of the
  chain. -/
theorem addPolicy_fanOut (c : Chain V) (g : Grant) (conditions : Option Conditions) :
    let s : Submission :=
      ⟨g.effect, g.subjects.getD ["**"], g.actions.getD ["**"], g.resources.getD ["**"],
        conditions.getD []⟩
    let k := c.voters.findIdx (breaksOn s)
    let o := c.addPolicy g conditions
    (∀ v, c.voters[k]? = some v →
      ∃ e, (Voter.submit v s).value = .error e ∧ e.isUnsupported = false ∧
        o.value = .error e) ∧
    (c.voters[k]? = none →
      o.value =
        if c.voters.any Voter.acceptsPolicies then .ok ()
        else .error (.unsupported "No voter is able to add the specified policy")) ∧
    o.state.voters =
      c.voters.mapIdx (fun position v =>
        if Voter.acceptsPolicies v = true ∧ position ≤ k then (Voter.submit v s).state
        else v) ∧
    (addPolicy ⟨c.voters.map fun v => (⟨v, []⟩ : Audited V)⟩ g conditions).state.voters =
      c.voters.mapIdx (fun position v =>
        if Voter.acceptsPolicies v = true ∧ position ≤ k then
          ⟨(Voter.submit v s).state, [s]⟩
        else ⟨v, []⟩) ∧
    o.events =
      ((c.voters.take (k + 1)).filter Voter.acceptsPolicies).flatMap (fun v =>
        (Voter.submit v s).events ++ declineReport s (Voter.submit v s).value) ++
        additionReport s (c.voters.countP Voter.acceptsPolicies) o.value := by
  dsimp only
  refine ⟨fun v at_break => ?_, fun no_break => ?_, addPolicy_state c g conditions,
    addPolicy_audited c g conditions, addPolicy_events c g conditions⟩
  · obtain ⟨e, failed, hard, added⟩ := addPolicy_of_break at_break
    exact ⟨e, failed, hard, congrArg Outcome.value added⟩
  · rw [addPolicy_of_no_break no_break, apply_ite Outcome.value]

end Chain

end Arbiter
