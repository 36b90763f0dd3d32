import Arbiter.Proofs.Engine.Deletion
import Arbiter.Proofs.TestDouble.Run

/-!
# The list of checked actions

A test double may keep a list of the actions that were checked in any scope. The list
belongs to no scope, and no answer depends on it.

* `TestDouble.Call.checked?`: the action that a call checks in a scope.
* `TestDouble.perform_checkedActions`: what one call does to the list.
* `TestDouble.run_checkedActions_eq`: the list after a run.
* `TestDouble.unlisted_unseen`: no answer depends on the list, nor on whether it is kept.
* `TestDouble.run_checkedActions`: what the list holds, what leaves it alone, and that it
  is for reading only.
-/

namespace Arbiter

namespace TestDouble

/-- The action that a call checks in a scope, if it does. Whether anything is registered
for the scope does not matter. -/
def Call.checked? (call : Call) : Option String :=
  match call.operation with
  | .checkIn _ r => some r.action
  | .check r => call.resolver.current?.map fun _ => r.action
  | _ => none

/-- The actions that were checked in any scope since the last reset, each as often as it
was checked. -/
def checkedSinceReset (calls : List Call) : List String :=
  (sinceReset calls).filterMap Call.checked?

theorem checkedSinceReset_concat (calls : List Call) (call : Call) :
    checkedSinceReset (calls ++ [call]) =
      if call.operation.isReset then [] else checkedSinceReset calls ++ call.checked?.toList := by
  rw [checkedSinceReset, sinceReset_concat]
  cases call.operation.isReset with
  | true => rfl
  | false =>
    rw [if_neg Bool.false_ne_true, if_neg Bool.false_ne_true, List.filterMap_append]
    cases checked : call.checked? with
    | none => rw [List.filterMap_cons_none checked]; rfl
    | some action => rw [List.filterMap_cons_some checked]; rfl

/-! ## First occurrences -/

/-- A list that grows at its end has one more first occurrence, unless the new element is
there already. -/
theorem eraseDups_concat (seen : List String) (action : String) :
    (seen ++ [action]).eraseDups =
      if action ∈ seen.eraseDups then seen.eraseDups else seen.eraseDups ++ [action] := by
  rw [List.eraseDups_append, List.removeAll]
  by_cases known : action ∈ seen
  · rw [List.filter_cons_of_neg (by simp [known]), if_pos (List.mem_eraseDups.mpr known)]
    exact List.append_nil _
  · rw [List.filter_cons_of_pos (by simp [known]), if_neg (mt List.mem_eraseDups.mp known)]
    rfl

theorem nodup_eraseDups (seen : List String) : seen.eraseDups.Nodup := by
  induction seen using List.reverseRecOn with
  | nil => exact List.nodup_nil
  | append_singleton seen action ih =>
    rw [eraseDups_concat]
    split
    · exact ih
    · next new =>
      refine List.nodup_append.mpr ⟨ih, List.pairwise_singleton _ action, ?_⟩
      intro old member added last
      rw [List.mem_singleton.mp last]
      exact ne_of_mem_of_not_mem member new

/-! ## The list along a run -/

/-- The list with one more action that has been checked, if there is one. -/
def noted (recording : Bool) (checked : List String) : Option String → List String
  | some action => if recording ∧ action ∉ checked then checked ++ [action] else checked
  | none => checked

/-- A list of first occurrences stays one. -/
theorem noted_eraseDups (seen : List String) (action? : Option String) :
    noted true seen.eraseDups action? = (seen ++ action?.toList).eraseDups := by
  cases action? with
  | none => rw [Option.toList_none, List.append_nil]; rfl
  | some action =>
    rw [Option.toList_some, eraseDups_concat, noted]
    by_cases known : action ∈ seen.eraseDups
    · rw [if_neg fun new => new.2 known, if_pos known]
    · rw [if_pos ⟨rfl, known⟩, if_neg known]

section

variable (d : TestDouble)

theorem recordAction_checkedActions (action : String) :
    (d.recordAction action).checkedActions =
      noted d.settings.recordCheckedActions d.checkedActions (some action) := by
  rw [recordAction, noted]
  split <;> rfl

theorem check_checkedActions (r : Request) :
    (d.check r).state.checkedActions =
      noted d.settings.recordCheckedActions d.checkedActions
        (d.currentScope?.map fun _ => r.action) := by
  cases current : d.currentScope? with
  | none => rw [check_of_no_scope current]; rfl
  | some scope =>
    rw [check_of_scope current]
    exact recordAction_checkedActions d r.action

theorem addGrant_checkedActions [Glob.SizeLimit] (g : Grant) :
    (d.addGrant g).state.checkedActions = d.checkedActions := by
  obtain ⟨scopes, warnings, after⟩ := d.exists_addGrant_state g
  rw [after]

theorem setDefault_checkedActions (allow : Bool) :
    (d.setDefault allow).state.checkedActions = d.checkedActions := by
  obtain ⟨scopes, warnings, after⟩ := d.exists_setDefault_state allow
  rw [after]

end

/-- What one call does to the list. -/
theorem perform_checkedActions [Glob.SizeLimit] (d : TestDouble) (call : Call) :
    (perform d call).state.checkedActions =
      if call.operation.isReset then []
      else noted d.settings.recordCheckedActions d.checkedActions call.checked? := by
  rcases call with ⟨resolver, operation⟩
  cases operation with
  | check r => exact check_checkedActions _ r
  | checkIn scope r => exact recordAction_checkedActions _ r.action
  | addGrant g => exact addGrant_checkedActions _ g
  | addPolicy g conditions =>
    cases conditions with
    | none => exact addGrant_checkedActions _ g
    | some conditions => rfl
  | setDefault allow => exact setDefault_checkedActions _ allow
  | addGrantIn scope g => rfl
  | setDefaultIn scope allow => rfl
  | endScope scope => rfl
  | reset => rfl

/-- The list after a run, if it is kept, holds the first occurrences of what was checked. -/
theorem run_checkedActions_eq [Glob.SizeLimit] (resolver : ScopeResolver)
    (settings : TestingSettings) (calls : List Call) :
    (run (.new resolver settings) calls).checkedActions =
      if settings.recordCheckedActions then (checkedSinceReset calls).eraseDups else [] := by
  induction calls using List.reverseRecOn with
  | nil => exact (ite_self _).symm
  | append_singleton calls call ih =>
    have unchanged : (run (.new resolver settings) calls).settings = settings :=
      run_settings _ calls
    rw [run_concat, perform_checkedActions, checkedSinceReset_concat, unchanged, ih]
    cases call.operation.isReset with
    | true => exact (ite_self _).symm
    | false =>
      rw [if_neg Bool.false_ne_true, if_neg Bool.false_ne_true]
      cases settings.recordCheckedActions with
      | true => exact noted_eraseDups (checkedSinceReset calls) call.checked?
      | false => cases call.checked? <;> rfl

/-! ## Nothing depends on the list -/

/-- A test double without its list, and without the setting that has it kept. -/
def unlisted (d : TestDouble) : TestDouble :=
  { d with settings := { d.settings with recordCheckedActions := false }, checkedActions := [] }

theorem recordAction_unlisted (d : TestDouble) (action : String) :
    (d.recordAction action).unlisted = d.unlisted := by
  rw [recordAction]
  split <;> rfl

theorem check_unlisted (d : TestDouble) (r : Request) :
    (d.unlisted.check r).value = (d.check r).value ∧
      (d.unlisted.check r).state.unlisted = (d.check r).state.unlisted := by
  simp only [check, currentScope?, unlisted]
  cases d.resolver.current? with
  | none => exact ⟨rfl, rfl⟩
  | some scope =>
    have after := recordAction_unlisted d r.action
    exact ⟨rfl, (recordAction_unlisted d.unlisted r.action).trans after.symm⟩

theorem addGrant_unlisted [Glob.SizeLimit] (d : TestDouble) (g : Grant) :
    (d.unlisted.addGrant g).state.unlisted = (d.addGrant g).state.unlisted := by
  simp only [addGrant, currentScope?, unlisted]
  cases d.resolver.current? <;> rfl

theorem setDefault_unlisted (d : TestDouble) (allow : Bool) :
    (d.unlisted.setDefault allow).state.unlisted = (d.setDefault allow).state.unlisted := by
  simp only [setDefault, currentScope?, unlisted]
  cases d.resolver.current? <;> rfl

/-- No call depends on the list. -/
theorem perform_unlisted [Glob.SizeLimit] (d : TestDouble) (call : Call) :
    (perform d.unlisted call).value = (perform d call).value ∧
      (perform d.unlisted call).state.unlisted = (perform d call).state.unlisted := by
  rcases call with ⟨resolver, operation⟩
  cases operation with
  | check r =>
    obtain ⟨verdict, after⟩ := check_unlisted { d with resolver := resolver } r
    exact ⟨congrArg Reply.verdict verdict, after⟩
  | checkIn scope r =>
    have after := recordAction_unlisted { d with resolver := resolver } r.action
    exact ⟨rfl, (recordAction_unlisted { d.unlisted with resolver := resolver } r.action).trans
      after.symm⟩
  | addGrant g => exact ⟨rfl, addGrant_unlisted { d with resolver := resolver } g⟩
  | addPolicy g conditions =>
    cases conditions with
    | none => exact ⟨rfl, addGrant_unlisted { d with resolver := resolver } g⟩
    | some conditions => exact ⟨rfl, rfl⟩
  | setDefault allow => exact ⟨rfl, setDefault_unlisted { d with resolver := resolver } allow⟩
  | _ => exact ⟨rfl, rfl⟩

/-- Test doubles that differ only in their lists, and in whether they keep one, cannot be told
apart. No call counts as a check here: the answers of checks are of interest too. -/
theorem unlisted_unseen [Glob.SizeLimit] : Unseen perform (fun _ => false) unlisted where
  check _ _ check := Bool.noConfusion check
  value {d e} same call := by
    rw [← (perform_unlisted d call).1, same, (perform_unlisted e call).1]
  state {d e} same call := by
    rw [← (perform_unlisted d call).2, same, (perform_unlisted e call).2]

/-- **The list of checked actions.** After any run, with the resolver saying whatever it likes
at each call:

* no action is in the list twice;
* if the list is kept, it holds the actions that were checked in any scope since the last
  reset, each at its first occurrence; otherwise it is empty;
* only a reset, or a check in a scope, changes it;
* whether it is kept makes no difference to what the calls of the run returned. -/
theorem run_checkedActions [Glob.SizeLimit] (resolver : ScopeResolver) (settings : TestingSettings)
    (calls : List Call) :
    let d := run (.new resolver settings) calls
    d.checkedActions.Nodup ∧
      d.checkedActions =
        (if settings.recordCheckedActions then (checkedSinceReset calls).eraseDups else []) ∧
      (∀ call : Call, call.operation.isReset = false → call.checked? = none →
        (perform d call).state.checkedActions = d.checkedActions) ∧
      ∀ recording : Bool,
        Run.answers perform
            (.new resolver { settings with recordCheckedActions := recording }) calls =
          Run.answers perform (.new resolver settings) calls := by
  intro d
  have listed : d.checkedActions = _ := run_checkedActions_eq resolver settings calls
  refine ⟨?_, listed, fun call kept unchecked => ?_, fun recording => ?_⟩
  · rw [listed]
    split
    · exact nodup_eraseDups (checkedSinceReset calls)
    · exact List.nodup_nil
  · rw [perform_checkedActions, kept, unchecked]
    rfl
  · have same : unlisted (.new resolver { settings with recordCheckedActions := recording }) =
        unlisted (.new resolver settings) := rfl
    exact unlisted_unseen.answers_eq same calls

end TestDouble

end Arbiter
