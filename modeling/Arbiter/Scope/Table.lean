import Arbiter.Scope
import Arbiter.Store

/-!
# What is registered for scopes

A table holds the policies and the default of every scope for which something
has been registered.

* `find?_update` and `find?_erase` say what a change does to every look-up.
-/

namespace Arbiter

/-- What is registered for one scope. -/
structure ScopeState where
  policies : Store
  /-- The verdict while there are no policies, if one was set. -/
  default? : Option Bool
  deriving DecidableEq

namespace ScopeState

def empty : ScopeState := ⟨.empty, none⟩

def add [Glob.SizeLimit] (s : ScopeState) (g : Grant) : ScopeState :=
  { s with policies := s.policies.add g }

def setDefault (s : ScopeState) (allow : Bool) : ScopeState :=
  { s with default? := some allow }

end ScopeState

/-- What is registered for each scope. -/
structure ScopeTable where
  entries : List (ScopeId × ScopeState)
  deriving DecidableEq

namespace ScopeTable

def empty : ScopeTable := ⟨[]⟩

def find? (t : ScopeTable) (scope : ScopeId) : Option ScopeState :=
  t.entries.lookup scope

/-- Changes what is registered for a scope, which begins empty. -/
def update (t : ScopeTable) (scope : ScopeId) (f : ScopeState → ScopeState) : ScopeTable :=
  ⟨(scope, f ((t.find? scope).getD .empty)) :: t.entries.filter (·.1 != scope)⟩

def erase (t : ScopeTable) (scope : ScopeId) : ScopeTable :=
  ⟨t.entries.filter (·.1 != scope)⟩

theorem find?_empty (scope : ScopeId) : empty.find? scope = none := rfl

theorem find?_erase (t : ScopeTable) (scope other : ScopeId) :
    (t.erase scope).find? other = if other = scope then none else t.find? other := by
  rcases t with ⟨entries⟩
  simp only [find?, erase]
  induction entries with
  | nil => simp
  | cons entry entries ih => grind

theorem find?_update (t : ScopeTable) (scope other : ScopeId) (f : ScopeState → ScopeState) :
    (t.update scope f).find? other =
      if other = scope then some (f ((t.find? scope).getD .empty)) else t.find? other := by
  have erased := t.find?_erase scope other
  simp only [find?, erase] at erased
  grind [find?, update]

end ScopeTable

end Arbiter
