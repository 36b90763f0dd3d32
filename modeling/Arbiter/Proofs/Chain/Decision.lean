import Arbiter.Chain
import Mathlib.Data.List.Basic

/-!
# How a chain decides

A request is put to the voters of a chain one after another. The first voter that does
not abstain decides it, and the voters behind that one are not asked.

* `Chain.verdict?`: the verdict of that voter.
* `Chain.consulted` and `Chain.spared`: the voters that are asked, and those that are not.
* `Chain.poll_eq`: what a poll returns, what it does to the voters, and what it reports.
* `Questioned`: a voter that keeps a list of what it has been asked.
* `Chain.check_decision`: who is asked, who decides, and what more voters change.
-/

namespace Arbiter

namespace Vote

theorem verdict?_eq_some_true_iff {vote : Vote} :
    vote.verdict? = some true ↔ vote = .granted := by
  cases vote <;> simp [verdict?]

theorem verdict?_eq_some_false_iff {vote : Vote} :
    vote.verdict? = some false ↔ vote = .denied := by
  cases vote <;> simp [verdict?]

theorem verdict?_eq_none_iff {vote : Vote} : vote.verdict? = none ↔ vote = .abstain := by
  cases vote <;> simp [verdict?]

end Vote

/-- A voter that keeps a list of everything that it has been asked. -/
structure Questioned (V : Type) where
  voter : V
  asked : List Request

instance {V : Type} [Voter V] : Voter (Questioned V) where
  vote q r := (Voter.vote q.voter r).mapState fun v => ⟨v, q.asked ++ [r]⟩
  acceptsPolicies q := Voter.acceptsPolicies q.voter
  submit q s := (Voter.submit q.voter s).mapState fun v => ⟨v, q.asked⟩
  reset q := ⟨Voter.reset q.voter, q.asked⟩

namespace Chain

variable {V : Type} [Voter V]

/-- Whether a voter grants or denies a request. -/
def decides (r : Request) (v : V) : Bool :=
  (Voter.vote v r).value != .abstain

/-- The position of the first voter that decides, or the number of voters if none
does. -/
def decisionPoint (r : Request) (voters : List V) : Nat :=
  voters.findIdx (decides r)

/-- The voters that are asked, in order. -/
def consulted (r : Request) (voters : List V) : List V :=
  voters.take (decisionPoint r voters + 1)

/-- The voters behind the one that decides. -/
def spared (r : Request) (voters : List V) : List V :=
  voters.drop (decisionPoint r voters + 1)

/-- The verdict of the first voter that decides. -/
def verdict? (r : Request) (voters : List V) : Option Bool :=
  voters.findSome? fun v => (Voter.vote v r).value.verdict?

/-- What the chain reports of a decision, when its first voter has the given position. -/
def decisionReport (r : Request) (position : Nat) (voters : List V) : List Event :=
  match voters[decisionPoint r voters]? with
  | some v =>
    [.voterDecided (position + decisionPoint r voters) (Voter.vote v r).value r.action r.subject]
  | none => []

/-- What the chain reports when nobody decides. -/
def abstentionReport (r : Request) (voters : List V) : List Event :=
  if verdict? r voters = none then [.allAbstained voters.length r.action] else []

/-! ## One voter -/

section

variable {r : Request} {v : V} (rest : List V)

theorem verdict?_of_decides (decided : decides r v = true) :
    ∃ verdict, (Voter.vote v r).value.verdict? = some verdict := by
  rw [decides, bne_iff_ne] at decided
  apply Option.ne_none_iff_exists'.mp
  intro undecided
  exact decided (Vote.verdict?_eq_none_iff.mp undecided)

theorem verdict?_of_abstains (abstains : decides r v = false) :
    (Voter.vote v r).value.verdict? = none := by
  rw [decides, bne_eq_false_iff_eq] at abstains
  exact Vote.verdict?_eq_none_iff.mpr abstains

theorem decisionPoint_cons_of_decides (decided : decides r v = true) :
    decisionPoint r (v :: rest) = 0 := by
  rw [decisionPoint, List.findIdx_cons, decided]
  rfl

theorem decisionPoint_cons_of_abstains (abstains : decides r v = false) :
    decisionPoint r (v :: rest) = decisionPoint r rest + 1 := by
  rw [decisionPoint, List.findIdx_cons, abstains]
  rfl

/-- A voter that decides ends the poll. -/
theorem poll_cons_of_decides (position : Nat) {verdict : Bool}
    (decided : (Voter.vote v r).value.verdict? = some verdict) :
    poll r position (v :: rest) =
      ⟨some verdict, (Voter.vote v r).state :: rest,
        (Voter.vote v r).events ++
          [.voterDecided position (Voter.vote v r).value r.action r.subject]⟩ := by
  simp only [poll, decided]

/-- Behind a voter that abstains, the poll goes on. -/
theorem poll_cons_of_abstains (position : Nat)
    (undecided : (Voter.vote v r).value.verdict? = none) :
    poll r position (v :: rest) =
      ⟨(poll r (position + 1) rest).value,
        (Voter.vote v r).state :: (poll r (position + 1) rest).state,
        (Voter.vote v r).events ++ (poll r (position + 1) rest).events⟩ := by
  simp only [poll, undecided]

theorem verdict?_cons (r : Request) (v : V) (rest : List V) :
    verdict? r (v :: rest) = (Voter.vote v r).value.verdict?.or (verdict? r rest) := by
  rw [verdict?, List.findSome?_cons]
  cases (Voter.vote v r).value.verdict? with
  | some verdict => rfl
  | none => rfl

end

/-! ## A whole poll -/

/-- A poll returns the verdict of the first voter that decides. It asks the voters up to
that one, in order, and leaves those behind it as they are. -/
theorem poll_eq (r : Request) (position : Nat) (voters : List V) :
    poll r position voters =
      ⟨verdict? r voters,
        (consulted r voters).map (fun v => (Voter.vote v r).state) ++ spared r voters,
        (consulted r voters).flatMap (fun v => (Voter.vote v r).events) ++
          decisionReport r position voters⟩ := by
  induction voters generalizing position with
  | nil => rfl
  | cons v rest ih =>
    cases decided : decides r v with
    | true =>
      obtain ⟨verdict, voted⟩ := verdict?_of_decides decided
      have point := decisionPoint_cons_of_decides rest decided
      rw [poll_cons_of_decides rest position voted, verdict?_cons, voted, consulted, spared,
        decisionReport, point]
      simp
    | false =>
      have voted := verdict?_of_abstains decided
      have point := decisionPoint_cons_of_abstains rest decided
      have shifted : decisionReport r position (v :: rest) =
          decisionReport r (position + 1) rest := by
        rw [decisionReport, decisionReport, point, List.getElem?_cons_succ,
          Nat.add_right_comm, Nat.add_assoc]
      rw [poll_cons_of_abstains rest position voted, verdict?_cons, voted, Option.none_or, ih,
        shifted, consulted, spared, consulted, spared, point]
      simp

/-- A chain allows what the first voter that decides grants, and nothing else. -/
theorem check_value (c : Chain V) (r : Request) :
    (c.check r).value = (verdict? r c.voters).getD false := by
  unfold check
  rw [poll_eq]
  cases verdict? r c.voters with
  | some verdict => rfl
  | none => rfl

theorem check_state (c : Chain V) (r : Request) :
    (c.check r).state.voters =
      (consulted r c.voters).map (fun v => (Voter.vote v r).state) ++ spared r c.voters := by
  unfold check
  rw [poll_eq]
  dsimp only
  split <;> rfl

/-- The only voter of a chain is always asked. -/
theorem check_state_singleton (v : V) (r : Request) :
    (check ⟨[v]⟩ r).state = ⟨[(Voter.vote v r).state]⟩ := by
  have asked : consulted r [v] = [v] := List.take_of_length_le (Nat.le_add_left 1 _)
  have unasked : spared r [v] = [] := List.drop_of_length_le (Nat.le_add_left 1 _)
  have after := check_state ⟨[v]⟩ r
  rw [asked, unasked] at after
  exact congrArg Chain.mk after

theorem check_events (c : Chain V) (r : Request) :
    (c.check r).events =
      (consulted r c.voters).flatMap (fun v => (Voter.vote v r).events) ++
        (decisionReport r 0 c.voters ++ abstentionReport r c.voters) := by
  unfold check
  rw [poll_eq, abstentionReport]
  cases verdict? r c.voters with
  | some verdict => exact (congrArg _ (List.append_nil _)).symm
  | none => exact List.append_assoc ..

/-! ## Who decides -/

/-- A chain allows a request exactly if some voter grants it behind voters that all
abstain. -/
theorem check_eq_true_iff {c : Chain V} {r : Request} :
    (c.check r).value = true ↔
      ∃ before v after, c.voters = before ++ v :: after ∧
        (Voter.vote v r).value = .granted ∧
        ∀ w ∈ before, (Voter.vote w r).value = .abstain := by
  have allowed : (c.check r).value = true ↔ verdict? r c.voters = some true := by
    rw [check_value]
    cases verdict? r c.voters with
    | some verdict => simp
    | none => simp
  simp only [allowed, verdict?, List.findSome?_eq_some_iff, Vote.verdict?_eq_some_true_iff,
    Vote.verdict?_eq_none_iff]

/-- Nobody decides exactly if everybody abstains. -/
theorem verdict?_eq_none_iff {r : Request} {voters : List V} :
    verdict? r voters = none ↔ ∀ v ∈ voters, (Voter.vote v r).value = .abstain := by
  simp only [verdict?, List.findSome?_eq_none_iff, Vote.verdict?_eq_none_iff]

theorem verdict?_append (r : Request) (voters others : List V) :
    verdict? r (voters ++ others) = (verdict? r voters).or (verdict? r others) :=
  List.findSome?_append

/-! ## More voters -/

theorem check_append_of_decided {c : Chain V} {r : Request}
    (decided : ∃ v ∈ c.voters, (Voter.vote v r).value ≠ .abstain) (d : Chain V) :
    (check ⟨c.voters ++ d.voters⟩ r).value = (c.check r).value := by
  rw [check_value, check_value, verdict?_append]
  cases first : verdict? r c.voters with
  | some verdict => rfl
  | none =>
    obtain ⟨v, member, decisive⟩ := decided
    exact absurd (verdict?_eq_none_iff.mp first v member) decisive

theorem check_append_of_abstained {c : Chain V} {r : Request}
    (abstained : ∀ v ∈ c.voters, (Voter.vote v r).value = .abstain) (d : Chain V) :
    (check ⟨c.voters ++ d.voters⟩ r).value = (d.check r).value := by
  rw [check_value, check_value, verdict?_append, verdict?_eq_none_iff.mpr abstained,
    Option.none_or]

/-- A voter that does not vote for a verdict cannot bring it about, wherever it is
inserted. -/
theorem check_insert {c : Chain V} {r : Request} {verdict : Bool}
    (other : (c.check r).value ≠ verdict) {v : V}
    (unvoiced : (Voter.vote v r).value.verdict? ≠ some verdict) (position : Nat) :
    (check ⟨c.voters.take position ++ v :: c.voters.drop position⟩ r).value ≠ verdict := by
  have parts := verdict?_append r (c.voters.take position) (c.voters.drop position)
  rw [List.take_append_drop] at parts
  rw [check_value, parts] at other
  rw [check_value, verdict?_append, verdict?_cons]
  cases first : verdict? r (c.voters.take position) with
  | some earlier =>
    rw [first] at other
    exact other
  | none =>
    rw [first, Option.none_or] at other
    cases voted : (Voter.vote v r).value.verdict? with
    | some own =>
      rw [voted] at unvoiced
      exact fun same => unvoiced (congrArg some same)
    | none => exact other

/-! ## The voters that are asked -/

/-- Keeping a list of what it is asked does not change how a voter votes. -/
theorem decisionPoint_questioned (r : Request) (voters : List V) :
    decisionPoint r (voters.map fun v => (⟨v, []⟩ : Questioned V)) = decisionPoint r voters :=
  List.findIdx_map ..

/-- Each voter that is asked is asked once, and all others are not. -/
theorem check_questioned (c : Chain V) (r : Request) :
    (check ⟨c.voters.map fun v => (⟨v, []⟩ : Questioned V)⟩ r).state.voters =
      (consulted r c.voters).map (fun v => ⟨(Voter.vote v r).state, [r]⟩) ++
        (spared r c.voters).map fun v => ⟨v, []⟩ := by
  rw [check_state, consulted, spared, decisionPoint_questioned, ← List.map_take,
    ← List.map_drop, List.map_map]
  -- Asking a questioned voter asks the voter inside and notes it.
  rfl

/-- **The decision of a chain.** Let `k` be the position of the first voter that does not
abstain, or the length of the chain if there is none.

* The request is allowed exactly if some voter grants it and all voters before that one
  abstain.
* The voters up to `k` are asked, and those behind are as they were.
* A list kept with each voter shows that those up to `k` were asked about the request
  once, and the others about nothing.
* The events are those of the voters that were asked, in the order of the chain, and one
  of the chain itself.
* With more voters behind it, a chain decides as it does alone if one of its voters does
  not abstain, and as the others do if all of them abstain.
* A voter that does not grant the request cannot get it allowed, wherever it is inserted,
  and a voter that does not deny it cannot get it denied. -/
theorem check_decision (c : Chain V) (r : Request) :
    let k := c.voters.findIdx fun v => (Voter.vote v r).value != .abstain
    let o := c.check r
    (o.value = true ↔
      ∃ before v after, c.voters = before ++ v :: after ∧
        (Voter.vote v r).value = .granted ∧
        ∀ w ∈ before, (Voter.vote w r).value = .abstain) ∧
    o.state.voters =
      (c.voters.take (k + 1)).map (fun v => (Voter.vote v r).state) ++ c.voters.drop (k + 1) ∧
    (check ⟨c.voters.map fun v => (⟨v, []⟩ : Questioned V)⟩ r).state.voters =
      (c.voters.take (k + 1)).map (fun v => ⟨(Voter.vote v r).state, [r]⟩) ++
        (c.voters.drop (k + 1)).map (fun v => ⟨v, []⟩) ∧
    o.events =
      (c.voters.take (k + 1)).flatMap (fun v => (Voter.vote v r).events) ++
        (decisionReport r 0 c.voters ++ abstentionReport r c.voters) ∧
    (∀ d : Chain V,
      (check ⟨c.voters ++ d.voters⟩ r).value =
        if ∃ v ∈ c.voters, (Voter.vote v r).value ≠ .abstain then o.value
        else (d.check r).value) ∧
    ∀ (position : Nat) (v : V),
      let inserted : Chain V := ⟨c.voters.take position ++ v :: c.voters.drop position⟩
      ((Voter.vote v r).value ≠ .granted → o.value = false → (inserted.check r).value = false) ∧
        ((Voter.vote v r).value ≠ .denied → o.value = true → (inserted.check r).value = true) := by
  intro k o
  refine ⟨check_eq_true_iff, check_state c r, check_questioned c r, check_events c r,
    fun d => ?_, fun position v => ⟨fun not_granted denied => ?_, fun not_denied allowed => ?_⟩⟩
  · split
    · next decided => exact check_append_of_decided decided d
    · next undecided =>
      push Not at undecided
      exact check_append_of_abstained undecided d
  · have unvoiced : (Voter.vote v r).value.verdict? ≠ some true :=
      fun voted => not_granted (Vote.verdict?_eq_some_true_iff.mp voted)
    exact Bool.eq_false_iff.mpr (check_insert (Bool.eq_false_iff.mp denied) unvoiced position)
  · have unvoiced : (Voter.vote v r).value.verdict? ≠ some false :=
      fun voted => not_denied (Vote.verdict?_eq_some_false_iff.mp voted)
    exact Bool.ne_false_iff.mp (check_insert (Bool.ne_false_iff.mpr allowed) unvoiced position)

end Chain

end Arbiter
