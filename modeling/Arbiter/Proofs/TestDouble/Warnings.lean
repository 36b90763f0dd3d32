import Arbiter.Proofs.TestDouble.Run

/-!
# Uses outside of any scope

An operation that leaves it to the resolver to name the scope has nothing to work on
while there is none. It is then dropped, and counted. Operations that name their scope
themselves are never counted, and a policy with conditions is refused before anyone asks
for a scope.

* `TestDouble.Call.strays`: such a call outside of any scope.
* `TestDouble.perform_of_strays`: it does nothing but count.
* `TestDouble.perform_refused`: a policy with conditions does nothing at all.
* `TestDouble.run_usageWarnings`: the number that a run leaves, and what each of these
  calls does after any run.
-/

namespace Arbiter

namespace TestDouble

/-- The operation takes effect on the scope that the resolver reports. -/
def Operation.asksResolver : Operation → Bool
  | .check _ | .addGrant _ | .addPolicy _ none | .setDefault _ => true
  | .checkIn _ _ | .addGrantIn _ _ | .addPolicy _ (some _) | .setDefaultIn _ _ | .endScope _
  | .reset => false

/-- The operation takes effect on the scope that it names itself. -/
def Operation.namesScope : Operation → Bool
  | .checkIn _ _ | .addGrantIn _ _ | .setDefaultIn _ _ | .endScope _ => true
  | .check _ | .addGrant _ | .addPolicy _ _ | .setDefault _ | .reset => false

/-- The call asks for a scope while the resolver reports none. -/
def Call.strays (call : Call) : Bool :=
  call.operation.asksResolver && call.resolver.current?.isNone

/-- What an operation returns outside of any scope: requests are allowed, and policies
seem to be accepted. -/
def Operation.strayReply : Operation → Reply
  | .check _ => .verdict true
  | .addPolicy _ _ => .added (.ok ())
  | _ => .done

/-! ## Calls outside of any scope -/

/-- A call outside of any scope only counts and reports its use. -/
theorem perform_of_strays [Glob.SizeLimit] (d : TestDouble) {call : Call}
    (stray : call.strays = true) :
    perform d call =
      ⟨call.operation.strayReply,
        { d with resolver := call.resolver, usageWarnings := d.usageWarnings + 1 },
        [.usedOutsideScope]⟩ := by
  rcases call with ⟨resolver, operation⟩
  obtain ⟨asks, nowhere⟩ := Bool.and_eq_true_iff.mp stray
  have current : TestDouble.currentScope? { d with resolver := resolver } = none :=
    Option.isNone_iff_eq_none.mp nowhere
  cases operation with
  | check r => rw [perform, carryOut, check_of_no_scope current]; rfl
  | addGrant g => rw [perform, carryOut, addGrant_of_no_scope current]; rfl
  | addPolicy g conditions =>
    cases conditions with
    | none => rw [perform, carryOut, addPolicy, addGrant_of_no_scope current]; rfl
    | some conditions => cases asks
  | setDefault allow => rw [perform, carryOut, setDefault_of_no_scope current]; rfl
  | _ => cases asks

/-- A policy with conditions is refused, whatever they are and wherever it is added. -/
theorem perform_refused [Glob.SizeLimit] (d : TestDouble) (resolver : ScopeResolver) (g : Grant)
    (conditions : Conditions) :
    perform d ⟨resolver, .addPolicy g (some conditions)⟩ =
      ⟨.added (.error (.unsupported "Conditions are not yet supported by Test Policy Checker.")),
        { d with resolver := resolver }, []⟩ := rfl

/-! ## The counter -/

theorem recordAction_usageWarnings (d : TestDouble) (action : String) :
    (d.recordAction action).usageWarnings = d.usageWarnings := by
  rw [recordAction]
  split <;> rfl

/-- In a scope, or with a scope of its own, no operation counts. -/
theorem perform_usageWarnings_of_not_strays [Glob.SizeLimit] (d : TestDouble) {call : Call}
    (kept : call.operation.isReset = false) (placed : call.strays = false) :
    (perform d call).state.usageWarnings = d.usageWarnings := by
  rcases call with ⟨resolver, operation⟩
  have somewhere (asks : operation.asksResolver = true) :
      ∃ scope, TestDouble.currentScope? { d with resolver := resolver } = some scope := by
    rw [Call.strays, asks, Bool.true_and] at placed
    exact Option.isSome_iff_exists.mp (Option.isNone_eq_false_iff.mp placed)
  cases operation with
  | check r =>
    obtain ⟨scope, current⟩ := somewhere rfl
    rw [perform, carryOut, check_of_scope current]
    exact recordAction_usageWarnings _ r.action
  | checkIn scope r => exact recordAction_usageWarnings _ r.action
  | addGrant g =>
    obtain ⟨scope, current⟩ := somewhere rfl
    rw [perform, carryOut, addGrant_of_scope current]
    rfl
  | addPolicy g conditions =>
    cases conditions with
    | none =>
      obtain ⟨scope, current⟩ := somewhere rfl
      rw [perform, carryOut, addPolicy, addGrant_of_scope current]
      rfl
    | some conditions => rw [perform_refused]
  | setDefault allow =>
    obtain ⟨scope, current⟩ := somewhere rfl
    rw [perform, carryOut, setDefault_of_scope current]
    rfl
  | addGrantIn scope g => rfl
  | setDefaultIn scope allow => rfl
  | endScope scope => rfl
  | reset => cases kept

/-- What one call does to the counter. -/
theorem perform_usageWarnings [Glob.SizeLimit] (d : TestDouble) (call : Call) :
    (perform d call).state.usageWarnings =
      if call.operation.isReset then 0
      else if call.strays then d.usageWarnings + 1
      else d.usageWarnings := by
  cases kept : call.operation.isReset with
  | true =>
    rcases call with ⟨resolver, operation⟩
    cases operation with
    | reset => rfl
    | _ => cases kept
  | false =>
    cases stray : call.strays with
    | true => rw [perform_of_strays d stray]; rfl
    | false => rw [perform_usageWarnings_of_not_strays d kept stray]; rfl

/-- A scope that an operation names itself is not asked for. -/
theorem not_strays_of_namesScope {call : Call} (named : call.operation.namesScope = true) :
    call.operation.isReset = false ∧ call.strays = false := by
  rcases call with ⟨resolver, operation⟩
  cases operation with
  | checkIn scope r => exact ⟨rfl, rfl⟩
  | addGrantIn scope g => exact ⟨rfl, rfl⟩
  | setDefaultIn scope allow => exact ⟨rfl, rfl⟩
  | endScope scope => exact ⟨rfl, rfl⟩
  | _ => cases named

/-- The counter holds the number of calls outside of any scope since the last reset. -/
theorem run_usageWarnings_eq_countP [Glob.SizeLimit] (resolver : ScopeResolver)
    (settings : TestingSettings) (calls : List Call) :
    (run (.new resolver settings) calls).usageWarnings =
      (sinceReset calls).countP Call.strays := by
  -- The calls since the last reset grow where the run does, at its end.
  induction calls using List.reverseRecOn with
  | nil => rfl
  | append_singleton calls call ih =>
    rw [run_concat, perform_usageWarnings, sinceReset_concat, ih]
    cases call.operation.isReset with
    | true => rfl
    | false =>
      rw [if_neg Bool.false_ne_true, if_neg Bool.false_ne_true, List.countP_append,
        List.countP_singleton]
      cases call.strays <;> rfl

/-- **Uses outside of any scope, and refused policies, leave no trace.** After any run, with
the resolver saying whatever it likes at each call:

* the counter holds the number of calls since the last reset that asked for a scope while
  there was none;
* such a call changes the counter alone, allows a request, and seems to accept a policy;
* a policy with conditions is refused, in a scope or not, and changes nothing at all;
* an operation that names its scope never changes the counter. -/
theorem run_usageWarnings [Glob.SizeLimit] (resolver : ScopeResolver) (settings : TestingSettings)
    (calls : List Call) :
    let d := run (.new resolver settings) calls
    d.usageWarnings = (sinceReset calls).countP Call.strays ∧
      (∀ call : Call, call.strays = true →
        perform d call =
          ⟨call.operation.strayReply,
            { d with resolver := call.resolver, usageWarnings := d.usageWarnings + 1 },
            [.usedOutsideScope]⟩) ∧
      (∀ (now : ScopeResolver) (g : Grant) (conditions : Conditions),
        perform d ⟨now, .addPolicy g (some conditions)⟩ =
          ⟨.added (.error
              (.unsupported "Conditions are not yet supported by Test Policy Checker.")),
            { d with resolver := now }, []⟩) ∧
      ∀ call : Call, call.operation.namesScope = true →
        (perform d call).state.usageWarnings = d.usageWarnings := by
  intro d
  refine ⟨run_usageWarnings_eq_countP resolver settings calls,
    fun call stray => perform_of_strays d stray, perform_refused d, fun call named => ?_⟩
  obtain ⟨kept, placed⟩ := not_strays_of_namesScope named
  exact perform_usageWarnings_of_not_strays d kept placed

end TestDouble

end Arbiter
