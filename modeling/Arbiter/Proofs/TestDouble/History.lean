import Arbiter.Proofs.Store.Evaluation
import Arbiter.Proofs.TestDouble.Run
import Mathlib.Data.List.DropRight

/-!
# The test double and its history

What is registered for a scope is a function of the operations that took effect on
that scope since it was last cleared. Calls to other scopes, calls outside of any scope
and refused policies play no part in it.

* `TestDouble.history`: these operations.
* `TestDouble.registered`: what they leave behind.
* `TestDouble.perform_find?`: what one call does to each scope.
* `TestDouble.run_find?`: a run leaves what its history leaves behind.
* `TestDouble.run_eq_history`: what a scope answers after a run.
-/

namespace Arbiter

namespace TestDouble

/-- The scope that a call takes effect on, if there is one. A policy with conditions is
refused, and a reset is not about any scope in particular. -/
def Call.scope? (call : Call) : Option ScopeId :=
  match call.operation with
  | .checkIn scope _ | .addGrantIn scope _ | .setDefaultIn scope _ | .endScope scope => some scope
  | .check _ | .addGrant _ | .addPolicy _ none | .setDefault _ => call.resolver.current?
  | .addPolicy _ (some _) | .reset => none

def Call.clears (scope : ScopeId) (call : Call) : Bool :=
  match call.operation with
  | .endScope ended => ended = scope
  | .reset => true
  | _ => false

/-- The operations that took effect on a scope since it was last cleared. -/
def history (scope : ScopeId) (calls : List Call) : List Operation :=
  ((calls.rtakeWhile fun call => !call.clears scope).filter
    fun call => call.scope? = some scope).map Call.operation

def Operation.grant? : Operation → Option Grant
  | .addGrant g | .addGrantIn _ g | .addPolicy g none => some g
  | _ => none

def Operation.default? : Operation → Option Bool
  | .setDefault allow | .setDefaultIn _ allow => some allow
  | _ => none

def grants (operations : List Operation) : List Grant :=
  operations.filterMap Operation.grant?

def defaults (operations : List Operation) : List Bool :=
  operations.filterMap Operation.default?

/-- What operations on a scope leave registered for it. Operations that neither register
a policy nor set a default do not bring the scope into being. -/
def registered [Glob.SizeLimit] (operations : List Operation) : Option ScopeState :=
  if grants operations = [] ∧ defaults operations = [] then none
  else some ⟨⟨(grants operations).map Grant.policy⟩, (defaults operations).getLast?⟩

/-- What one operation on a scope makes of what is registered for it. -/
def Operation.register [Glob.SizeLimit] (state : Option ScopeState) : Operation → Option ScopeState
  | .addGrant g | .addGrantIn _ g | .addPolicy g none => some ((state.getD .empty).add g)
  | .setDefault allow | .setDefaultIn _ allow => some ((state.getD .empty).setDefault allow)
  | .check _ | .checkIn _ _ | .addPolicy _ (some _) | .endScope _ | .reset => state

/-! ## Histories grow at their end -/

theorem grants_concat (operations : List Operation) (operation : Operation) :
    grants (operations ++ [operation]) = grants operations ++ operation.grant?.toList := by
  rw [grants, List.filterMap_append]
  cases found : operation.grant? with
  | none => rw [List.filterMap_cons_none found]; rfl
  | some g => rw [List.filterMap_cons_some found]; rfl

theorem defaults_concat (operations : List Operation) (operation : Operation) :
    defaults (operations ++ [operation]) = defaults operations ++ operation.default?.toList := by
  rw [defaults, List.filterMap_append]
  cases found : operation.default? with
  | none => rw [List.filterMap_cons_none found]; rfl
  | some allow => rw [List.filterMap_cons_some found]; rfl

/-- What is registered for a scope, or the empty state. -/
theorem registered_getD [Glob.SizeLimit] (operations : List Operation) :
    (registered operations).getD .empty =
      ⟨⟨(grants operations).map Grant.policy⟩, (defaults operations).getLast?⟩ := by
  rw [registered]
  split
  · next nothing =>
    rw [nothing.1, nothing.2]
    rfl
  · rfl

section

variable {operation : Operation} (operations : List Operation)

theorem registered_concat_of_grant [Glob.SizeLimit] {g : Grant} (grant : operation.grant? = some g)
    (no_default : operation.default? = none) :
    registered (operations ++ [operation]) =
      some (((registered operations).getD .empty).add g) := by
  have registers : grants (operations ++ [operation]) ≠ [] := by
    rw [grants_concat, grant]
    exact List.append_ne_nil_of_right_ne_nil _ (List.cons_ne_nil g [])
  rw [registered, if_neg fun nothing => registers nothing.1, registered_getD, grants_concat,
    defaults_concat, grant, no_default, List.map_append, Option.toList_none, List.append_nil]
  rfl

theorem registered_concat_of_default [Glob.SizeLimit] {allow : Bool}
    (no_grant : operation.grant? = none) (default : operation.default? = some allow) :
    registered (operations ++ [operation]) =
      some (((registered operations).getD .empty).setDefault allow) := by
  have sets : defaults (operations ++ [operation]) ≠ [] := by
    rw [defaults_concat, default]
    exact List.append_ne_nil_of_right_ne_nil _ (List.cons_ne_nil allow [])
  rw [registered, if_neg fun nothing => sets nothing.2, registered_getD, grants_concat,
    defaults_concat, no_grant, default, Option.toList_none, List.append_nil, Option.toList_some,
    List.getLast?_concat]
  rfl

theorem registered_concat_of_neither [Glob.SizeLimit] (no_grant : operation.grant? = none)
    (no_default : operation.default? = none) :
    registered (operations ++ [operation]) = registered operations := by
  rw [registered, grants_concat, defaults_concat, no_grant, no_default, Option.toList_none,
    Option.toList_none, List.append_nil, List.append_nil, registered]

end

theorem registered_concat [Glob.SizeLimit] (operations : List Operation) (operation : Operation) :
    registered (operations ++ [operation]) = operation.register (registered operations) := by
  cases operation with
  | check r => exact registered_concat_of_neither operations rfl rfl
  | checkIn scope r => exact registered_concat_of_neither operations rfl rfl
  | addGrant g => exact registered_concat_of_grant operations rfl rfl
  | addGrantIn scope g => exact registered_concat_of_grant operations rfl rfl
  | addPolicy g conditions =>
    cases conditions with
    | none => exact registered_concat_of_grant operations rfl rfl
    | some conditions => exact registered_concat_of_neither operations rfl rfl
  | setDefault allow => exact registered_concat_of_default operations rfl rfl
  | setDefaultIn scope allow => exact registered_concat_of_default operations rfl rfl
  | endScope scope => exact registered_concat_of_neither operations rfl rfl
  | reset => exact registered_concat_of_neither operations rfl rfl

/-- A call adds to the history of a scope what it does on this scope, unless it clears
the scope. -/
theorem history_concat (scope : ScopeId) (calls : List Call) (call : Call) :
    history scope (calls ++ [call]) =
      if call.clears scope then []
      else if call.scope? = some scope then history scope calls ++ [call.operation]
      else history scope calls := by
  rw [history, List.rtakeWhile_concat]
  cases call.clears scope with
  | true => rfl
  | false =>
    rw [if_pos (by rfl), if_neg (by decide), List.filter_append, List.map_append]
    split
    · next on_scope => rw [List.filter_cons_of_pos (by simp [on_scope])]; rfl
    · next elsewhere =>
      rw [List.filter_cons_of_neg (by simp [elsewhere])]
      exact List.append_nil _

/-! ## Calls and what they do to the scopes -/

section

variable (d : TestDouble) (scope : ScopeId)

theorem find?_update_named (t : ScopeTable) (named : ScopeId) (f : ScopeState → ScopeState) :
    (t.update named f).find? scope =
      if some named = some scope then some (f ((t.find? scope).getD .empty))
      else t.find? scope := by
  rw [ScopeTable.find?_update]
  by_cases same : scope = named
  · subst same
    rw [if_pos rfl, if_pos rfl]
  · rw [if_neg same, if_neg fun equal => same (Option.some.inj equal).symm]

/-- Outside of any scope, nothing is registered. -/
theorem addGrant_find? [Glob.SizeLimit] (g : Grant) :
    (d.addGrant g).state.scopes.find? scope =
      if d.currentScope? = some scope then some (((d.scopes.find? scope).getD .empty).add g)
      else d.scopes.find? scope := by
  cases current : d.currentScope? with
  | none =>
    rw [addGrant_of_no_scope current, if_neg (by simp)]
    rfl
  | some named =>
    rw [addGrant_of_scope current]
    exact find?_update_named scope d.scopes named (·.add g)

theorem setDefault_find? (allow : Bool) :
    (d.setDefault allow).state.scopes.find? scope =
      if d.currentScope? = some scope then
        some (((d.scopes.find? scope).getD .empty).setDefault allow)
      else d.scopes.find? scope := by
  cases current : d.currentScope? with
  | none =>
    rw [setDefault_of_no_scope current, if_neg (by simp)]
    rfl
  | some named =>
    rw [setDefault_of_scope current]
    exact find?_update_named scope d.scopes named (·.setDefault allow)

theorem check_scopes (r : Request) : (d.check r).state.scopes = d.scopes := by
  cases current : d.currentScope? with
  | none => rw [check_of_no_scope current, warn]
  | some scope => rw [check_of_scope current, checkIn, recordAction_scopes]

end

/-- What one call does to a scope. -/
theorem perform_find? [Glob.SizeLimit] (d : TestDouble) (call : Call) (scope : ScopeId) :
    (perform d call).state.scopes.find? scope =
      if call.clears scope then none
      else if call.scope? = some scope then call.operation.register (d.scopes.find? scope)
      else d.scopes.find? scope := by
  rcases call with ⟨resolver, operation⟩
  cases operation with
  | check r =>
    rw [if_neg (by simp [Call.clears]), Operation.register, ite_self]
    exact congrArg (·.find? scope) (check_scopes _ r)
  | checkIn named r =>
    rw [if_neg (by simp [Call.clears]), Operation.register, ite_self]
    exact congrArg (·.find? scope) (recordAction_scopes _ r.action)
  | addGrant g =>
    rw [if_neg (by simp [Call.clears])]
    exact addGrant_find? _ scope g
  | addGrantIn named g =>
    rw [if_neg (by simp [Call.clears])]
    exact find?_update_named scope d.scopes named (·.add g)
  | addPolicy g conditions =>
    rw [if_neg (by simp [Call.clears])]
    cases conditions with
    | none => exact addGrant_find? _ scope g
    | some conditions => rfl
  | setDefault allow =>
    rw [if_neg (by simp [Call.clears])]
    exact setDefault_find? _ scope allow
  | setDefaultIn named allow =>
    rw [if_neg (by simp [Call.clears])]
    exact find?_update_named scope d.scopes named (·.setDefault allow)
  | endScope ended =>
    rw [Operation.register, ite_self]
    have erased := d.scopes.find?_erase ended scope
    by_cases same : ended = scope
    · rw [if_pos same.symm] at erased
      rw [if_pos (by simp [Call.clears, same])]
      exact erased
    · rw [if_neg (Ne.symm same)] at erased
      rw [if_neg (by simp [Call.clears, same])]
      exact erased
  | reset => rw [if_pos (by rfl)]; exact ScopeTable.find?_empty scope

/-- A run leaves registered for a scope what the history of the scope leaves behind. -/
theorem run_find? [Glob.SizeLimit] (resolver : ScopeResolver) (settings : TestingSettings)
    (calls : List Call) (scope : ScopeId) :
    (run (.new resolver settings) calls).scopes.find? scope =
      registered (history scope calls) := by
  -- A history grows where the run does, at its end.
  induction calls using List.reverseRecOn with
  | nil => rfl
  | append_singleton calls call ih =>
    rw [run_concat, perform_find?, history_concat, ih]
    split
    · rfl
    · split
      · rw [registered_concat]
      · rfl

/-! ## What a scope answers -/

/-- A scope for which nothing is registered has no policies. -/
theorem policyCount_eq (d : TestDouble) (scope : ScopeId) :
    d.policyCount scope = ((d.scopes.find? scope).getD .empty).policies.size := by
  rw [policyCount]
  cases d.scopes.find? scope with
  | none => rfl
  | some state => rfl

/-- A scope for which nothing is registered answers as an empty one. -/
theorem verdictIn_eq (d : TestDouble) (scope : ScopeId) (r : Request) :
    d.verdictIn scope r =
      let state := (d.scopes.find? scope).getD .empty
      if state.policies.isEmpty then state.default?.getD d.settings.defaultAllow
      else state.policies.evaluate r.access == .allow := by
  rw [verdictIn]
  cases d.scopes.find? scope with
  | none => rfl
  | some state => rfl

/-- The policies of grants allow a request if the first grant that covers it does. -/
theorem evaluate_grants [Glob.SizeLimit] (granted : List Grant) (a : Access) :
    (Store.evaluate ⟨granted.map Grant.policy⟩ a == .allow) =
      match granted.find? (·.policy.covers a) with
      | some g => g.effect.isAllow
      | none => false := by
  have found := List.find?_map (f := Grant.policy) (p := (·.covers a)) (l := granted)
  rw [Store.evaluate_eq, found, Function.comp_def]
  cases granted.find? (·.policy.covers a) with
  | none => rfl
  | some g =>
    rcases g with ⟨_ | _, subjects, actions, resources⟩
    · rfl
    · rfl

theorem access_eq (r : Request) :
    r.access = ⟨r.subject.text, r.action, (r.resource.map Urn.text).getD ""⟩ := by
  rcases r with ⟨subject, action, _ | resource, context⟩
  · rfl
  · rfl

/-- **A test double equals its history.** After any run, with the resolver saying
whatever it likes at each call, a scope is what the operations make it that took effect
on it since the last reset and since the scope was last ended.

* It has as many policies as were granted.
* Without a grant it answers with the last default that was set, or with the configured
  one if none was. As soon as there is one, the first grant that covers the subject, the
  action and the resource decides, and a request that none covers is denied.
* Ending it finds something to end if there was a grant or a default. -/
theorem run_eq_history [Glob.SizeLimit] (resolver : ScopeResolver) (settings : TestingSettings)
    (calls : List Call) (scope : ScopeId) :
    let d := run (.new resolver settings) calls
    let H := history scope calls
    d.policyCount scope = (grants H).length ∧
      (∀ r : Request,
        (d.checkIn scope r).value =
          if grants H = [] then (defaults H).getLast?.getD settings.defaultAllow
          else
            match (grants H).find? fun g =>
              g.policy.covers ⟨r.subject.text, r.action, (r.resource.map Urn.text).getD ""⟩ with
            | some g => g.effect.isAllow
            | none => false) ∧
      ((d.endScope scope).value = true ↔ grants H ≠ [] ∨ defaults H ≠ []) := by
  intro d H
  have found : d.scopes.find? scope = registered H := run_find? resolver settings calls scope
  have unchanged : d.settings = settings := run_settings _ calls
  refine ⟨?_, fun r => ?_, ?_⟩
  · rw [policyCount_eq, found, registered_getD]
    exact List.length_map Grant.policy
  · have verdict := verdictIn_eq d scope r
    rw [found, registered_getD, unchanged, access_eq] at verdict
    dsimp only at verdict
    rw [evaluate_grants] at verdict
    refine verdict.trans (if_congr ?_ rfl rfl)
    exact List.isEmpty_iff.trans List.map_eq_nil_iff
  · have ended : (d.endScope scope).value = (d.scopes.find? scope).isSome := rfl
    rw [ended, found, registered, ← not_and_or]
    split
    · next nothing => simp [nothing]
    · next something => simp [something]

end TestDouble

end Arbiter
