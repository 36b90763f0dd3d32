/-!
# Scopes

A scope is what the policies of a test belong to. A resolver says which scope is
current, if any.

* `ScopeId.sorted`: distinct scopes in the order of their texts.
* `ScopeResolver.current?`: the current scope.
-/

namespace Arbiter

structure ScopeId where
  text : String
  deriving DecidableEq

namespace ScopeId

/-- Scopes are ordered by their texts, character by character. -/
instance : LE ScopeId where
  le a b := a.text ≤ b.text

instance (a b : ScopeId) : Decidable (a ≤ b) :=
  inferInstanceAs (Decidable (a.text ≤ b.text))

/-- The distinct scopes of a list, in order. -/
def sorted (ids : List ScopeId) : List ScopeId :=
  (ids.mergeSort fun a b => a ≤ b).eraseReps

end ScopeId

/-- What says which scope is current. -/
inductive ScopeResolver where
  /-- The scope was set by its owner, who may set another one. -/
  | switchable (scope : Option ScopeId)
  /-- The scope is the name of the thread that runs the test. -/
  | thread (name : Option String)
  deriving DecidableEq

namespace ScopeResolver

def mainThread : String := "main"

/-- The current scope. A thread without a name, and the main thread, have none. -/
def current? : ScopeResolver → Option ScopeId
  | .switchable scope => scope
  | .thread name => (name.filter (· != mainThread)).map ScopeId.mk

/-- Sets the current scope, where that is for the owner to say. -/
def switchTo (scope : Option ScopeId) : ScopeResolver → ScopeResolver
  | .switchable _ => .switchable scope
  | .thread name => .thread name

end ScopeResolver

end Arbiter
