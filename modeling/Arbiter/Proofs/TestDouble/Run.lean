import Arbiter.Proofs.Engine.Run
import Arbiter.TestDouble
import Mathlib.Data.List.DropRight

/-!
# Runs of the test double

A run is a list of calls to a test double. What the resolver says is up to its
owner and to the threads of the tests, so every call brings its own resolver.

* `TestDouble.Operation`: what can be asked of a test double.
* `TestDouble.perform`: a single call.
* `TestDouble.run`: the test double that a run leaves.
* `TestDouble.sinceReset`: the calls of a run that its last reset has not made void.
* `TestDouble.run_settings`: no run changes the settings.
-/

namespace Arbiter

namespace TestDouble

inductive Operation where
  | check (r : Request)
  | checkIn (scope : ScopeId) (r : Request)
  | addGrant (g : Grant)
  | addGrantIn (scope : ScopeId) (g : Grant)
  | addPolicy (g : Grant) (conditions : Option Conditions)
  | setDefault (allow : Bool)
  | setDefaultIn (scope : ScopeId) (allow : Bool)
  | endScope (scope : ScopeId)
  | reset

/-- An operation, and the resolver as it is when the operation is asked for. -/
structure Call where
  resolver : ScopeResolver
  operation : Operation

inductive Reply where
  | verdict (allowed : Bool)
  | added (result : Except PolicyError Unit)
  | ended (existed : Bool)
  | done

/-- Carries out an operation. -/
def carryOut [Glob.SizeLimit] (d : TestDouble) : Operation → Outcome TestDouble Reply
  | .check r => (d.check r).mapValue .verdict
  | .checkIn scope r => (d.checkIn scope r).mapValue .verdict
  | .addGrant g => (d.addGrant g).mapValue fun _ => .done
  | .addGrantIn scope g => (d.addGrantIn scope g).mapValue fun _ => .done
  | .addPolicy g conditions => (d.addPolicy g conditions).mapValue .added
  | .setDefault allow => (d.setDefault allow).mapValue fun _ => .done
  | .setDefaultIn scope allow => .silent (d.setDefaultIn scope allow) .done
  | .endScope scope => (d.endScope scope).mapValue .ended
  | .reset => .silent d.reset .done

def perform [Glob.SizeLimit] (d : TestDouble) (call : Call) : Outcome TestDouble Reply :=
  carryOut { d with resolver := call.resolver } call.operation

def run [Glob.SizeLimit] (d : TestDouble) (calls : List Call) : TestDouble :=
  calls.foldl (fun d call => (perform d call).state) d

theorem run_concat [Glob.SizeLimit] (d : TestDouble) (calls : List Call) (call : Call) :
    run d (calls ++ [call]) = (perform (run d calls) call).state := by
  rw [run, List.foldl_append]
  rfl

def Operation.isReset : Operation → Bool
  | .reset => true
  | _ => false

/-- The calls since the last reset, in order. -/
def sinceReset (calls : List Call) : List Call :=
  calls.rtakeWhile fun call => !call.operation.isReset

theorem sinceReset_concat (calls : List Call) (call : Call) :
    sinceReset (calls ++ [call]) =
      if call.operation.isReset then [] else sinceReset calls ++ [call] := by
  rw [sinceReset, List.rtakeWhile_concat, sinceReset]
  cases call.operation.isReset <;> rfl

/-- Noting a checked action leaves everything else as it is. -/
theorem recordAction_settings (d : TestDouble) (action : String) :
    (d.recordAction action).settings = d.settings := by
  rw [recordAction]
  split <;> rfl

theorem recordAction_scopes (d : TestDouble) (action : String) :
    (d.recordAction action).scopes = d.scopes := by
  rw [recordAction]
  split <;> rfl

theorem recordAction_resolver (d : TestDouble) (action : String) :
    (d.recordAction action).resolver = d.resolver := by
  rw [recordAction]
  split <;> rfl

/-! ## Calls without a scope -/

section

variable {d : TestDouble}

/-- In a scope, an unscoped call is the scoped one. -/
theorem check_of_scope {scope : ScopeId} (current : d.currentScope? = some scope)
    (r : Request) : d.check r = d.checkIn scope r := by
  rw [check, current]

theorem addGrant_of_scope [Glob.SizeLimit] {scope : ScopeId}
    (current : d.currentScope? = some scope) (g : Grant) :
    d.addGrant g = d.addGrantIn scope g := by
  rw [addGrant, current]

theorem setDefault_of_scope {scope : ScopeId} (current : d.currentScope? = some scope)
    (allow : Bool) : d.setDefault allow = .silent (d.setDefaultIn scope allow) () := by
  rw [setDefault, current]

/-- Outside of any scope, an unscoped call only warns. -/
theorem check_of_no_scope (current : d.currentScope? = none) (r : Request) :
    d.check r = d.warn true := by
  rw [check, current]

theorem addGrant_of_no_scope [Glob.SizeLimit] (current : d.currentScope? = none) (g : Grant) :
    d.addGrant g = d.warn () := by
  rw [addGrant, current]

theorem setDefault_of_no_scope (current : d.currentScope? = none) (allow : Bool) :
    d.setDefault allow = d.warn () := by
  rw [setDefault, current]

end

/-! ## What grants and defaults leave alone -/

/-- A grant changes nothing but the scopes, and the counter if there is none. -/
theorem exists_addGrant_state [Glob.SizeLimit] (d : TestDouble) (g : Grant) :
    ∃ scopes warnings,
      (d.addGrant g).state = { d with scopes := scopes, usageWarnings := warnings } := by
  cases current : d.currentScope? with
  | none => exact ⟨_, _, congrArg Outcome.state (addGrant_of_no_scope current g)⟩
  | some scope => exact ⟨_, _, congrArg Outcome.state (addGrant_of_scope current g)⟩

/-- Nor does a default change anything else. -/
theorem exists_setDefault_state (d : TestDouble) (allow : Bool) :
    ∃ scopes warnings,
      (d.setDefault allow).state = { d with scopes := scopes, usageWarnings := warnings } := by
  cases current : d.currentScope? with
  | none => exact ⟨_, _, congrArg Outcome.state (setDefault_of_no_scope current allow)⟩
  | some scope => exact ⟨_, _, congrArg Outcome.state (setDefault_of_scope current allow)⟩

/-! ## The settings -/

theorem check_settings (d : TestDouble) (r : Request) :
    (d.check r).state.settings = d.settings := by
  cases current : d.currentScope? with
  | none => rw [check_of_no_scope current, warn]
  | some scope => rw [check_of_scope current, checkIn, recordAction_settings]

theorem addGrant_settings [Glob.SizeLimit] (d : TestDouble) (g : Grant) :
    (d.addGrant g).state.settings = d.settings := by
  obtain ⟨scopes, warnings, after⟩ := d.exists_addGrant_state g
  rw [after]

theorem setDefault_settings (d : TestDouble) (allow : Bool) :
    (d.setDefault allow).state.settings = d.settings := by
  obtain ⟨scopes, warnings, after⟩ := d.exists_setDefault_state allow
  rw [after]

theorem perform_settings [Glob.SizeLimit] (d : TestDouble) (call : Call) :
    (perform d call).state.settings = d.settings := by
  rcases call with ⟨resolver, operation⟩
  cases operation with
  | check r => exact check_settings _ r
  | checkIn scope r => exact recordAction_settings _ r.action
  | addGrant g => exact addGrant_settings _ g
  | addGrantIn scope g => rfl
  | addPolicy g conditions =>
    cases conditions with
    | none => exact addGrant_settings _ g
    | some conditions => rfl
  | setDefault allow => exact setDefault_settings _ allow
  | setDefaultIn scope allow => rfl
  | endScope scope => rfl
  | reset => rfl

/-- No run changes the settings. -/
theorem run_settings [Glob.SizeLimit] (d : TestDouble) (calls : List Call) :
    (run d calls).settings = d.settings := by
  induction calls generalizing d with
  | nil => rfl
  | cons call calls ih => exact (ih _).trans (perform_settings d call)

end TestDouble

end Arbiter
