import Arbiter.Voter
import Arbiter.Scope.Table
import Arbiter.Settings

/-!
# The test double

An engine that takes the place of a real one in tests. Policies belong to
scopes, and tests in different scopes do not see each other.

* Without policies, a scope answers with its own default or the configured one.
  As soon as there are policies, the first one that covers the request decides,
  and a request that none covers is denied.
* Outside of any scope, requests are allowed and everything else is dropped;
  either way a usage warning is counted.
-/

namespace Arbiter

structure TestDouble where
  resolver : ScopeResolver
  settings : TestingSettings
  scopes : ScopeTable
  /-- The actions checked in any scope, each at its first occurrence. -/
  checkedActions : List String
  /-- How often it was used outside of any scope. -/
  usageWarnings : Nat

namespace TestDouble

def new (resolver : ScopeResolver) (settings : TestingSettings) : TestDouble :=
  ⟨resolver, settings, .empty, [], 0⟩

def currentScope? (d : TestDouble) : Option ScopeId :=
  d.resolver.current?

/-- Sets the current scope, where that is for the owner to say. -/
def switchTo (d : TestDouble) (scope : Option ScopeId) : TestDouble :=
  { d with resolver := d.resolver.switchTo scope }

/-- Counts and reports a use outside of any scope. -/
def warn {α : Type} (d : TestDouble) (value : α) : Outcome TestDouble α :=
  ⟨value, { d with usageWarnings := d.usageWarnings + 1 }, [.usedOutsideScope]⟩

/-- Keeps an action that has not been checked before, if a list is kept. -/
def recordAction (d : TestDouble) (action : String) : TestDouble :=
  if d.settings.recordCheckedActions ∧ action ∉ d.checkedActions then
    { d with checkedActions := d.checkedActions ++ [action] }
  else d

def verdictIn (d : TestDouble) (scope : ScopeId) (r : Request) : Bool :=
  match d.scopes.find? scope with
  | none => d.settings.defaultAllow
  | some state =>
    if state.policies.isEmpty then state.default?.getD d.settings.defaultAllow
    else state.policies.evaluate r.access == .allow

def reportIn (d : TestDouble) (scope : ScopeId) (r : Request) : List Event :=
  match d.scopes.find? scope with
  | none => []
  | some state =>
    if state.policies.isEmpty then []
    else match state.policies.report r.access with
      | [] => [.noTestPolicy r.action scope.text]
      | events => events

def checkIn (d : TestDouble) (scope : ScopeId) (r : Request) : Outcome TestDouble Bool :=
  ⟨d.verdictIn scope r, d.recordAction r.action, d.reportIn scope r⟩

def addGrantIn [Glob.SizeLimit] (d : TestDouble) (scope : ScopeId) (g : Grant) :
    Outcome TestDouble Unit :=
  ⟨(), { d with scopes := d.scopes.update scope (·.add g) }, g.policy.refusals⟩

def setDefaultIn (d : TestDouble) (scope : ScopeId) (allow : Bool) : TestDouble :=
  { d with scopes := d.scopes.update scope (·.setDefault allow) }

/-- Ends a scope, and says whether there was anything to end. -/
def endScope (d : TestDouble) (scope : ScopeId) : Outcome TestDouble Bool :=
  .silent { d with scopes := d.scopes.erase scope } (d.scopes.find? scope).isSome

def policyCount (d : TestDouble) (scope : ScopeId) : Nat :=
  match d.scopes.find? scope with
  | none => 0
  | some state => state.policies.size

/-! ## The current scope -/

def addGrant [Glob.SizeLimit] (d : TestDouble) (g : Grant) : Outcome TestDouble Unit :=
  match d.currentScope? with
  | some scope => d.addGrantIn scope g
  | none => d.warn ()

def setDefault (d : TestDouble) (allow : Bool) : Outcome TestDouble Unit :=
  match d.currentScope? with
  | some scope => .silent (d.setDefaultIn scope allow) ()
  | none => d.warn ()

def check (d : TestDouble) (r : Request) : Outcome TestDouble Bool :=
  match d.currentScope? with
  | some scope => d.checkIn scope r
  | none => d.warn true

/-- Adds a policy to the current scope. Conditions, even none at all, are refused
when they are given. -/
def addPolicy [Glob.SizeLimit] (d : TestDouble) (g : Grant) (conditions : Option Conditions) :
    Outcome TestDouble (Except PolicyError Unit) :=
  match conditions with
  | some _ =>
    .silent d
      (.error (.unsupported "Conditions are not yet supported by Test Policy Checker."))
  | none =>
    let added := d.addGrant g
    ⟨.ok added.value, added.state, added.events⟩

/-- Forgets everything but the resolver and the settings. -/
def reset (d : TestDouble) : TestDouble :=
  .new d.resolver d.settings

instance [Glob.SizeLimit] : Engine TestDouble where
  check := check
  addPolicy := addPolicy
  reset := reset

end TestDouble

end Arbiter
