/-!
# Effects and votes

What a policy does to a request that it covers, and what a voter says of a request.

* `Effect.text` and `Effect.parse`: the written form, which is exact.
* `Evaluation`: the answer of a list of policies to a request.
* `Vote`: the answer of a voter.
-/

namespace Arbiter

/-- What a policy does to a request that it covers. -/
inductive Effect where
  | allow
  | deny
  deriving DecidableEq

namespace Effect

def text : Effect → String
  | .allow => "allow"
  | .deny => "deny"

def isAllow : Effect → Bool
  | .allow => true
  | .deny => false

def ofText? (text : String) : Option Effect :=
  if text = "allow" then some .allow
  else if text = "deny" then some .deny
  else none

theorem ofText?_text (e : Effect) : ofText? e.text = some e := by
  cases e <;> simp [ofText?, text]

theorem ofText?_eq_some_iff {t : String} {e : Effect} : ofText? t = some e ↔ t = e.text := by
  constructor
  · intro h
    unfold ofText? at h
    split at h
    · next allow => cases h; exact allow
    · split at h
      · next deny => cases h; exact deny
      · cases h
  · rintro rfl
    exact ofText?_text e

end Effect

/-- A text that is no effect. -/
structure UnknownEffect where
  text : String
  deriving DecidableEq

def UnknownEffect.message (e : UnknownEffect) : String :=
  "unknown policy effect: " ++ e.text

def Effect.parse (text : String) : Except UnknownEffect Effect :=
  match Effect.ofText? text with
  | some e => .ok e
  | none => .error ⟨text⟩

/-- The answer of a list of policies to a request. -/
inductive Evaluation where
  | allow
  | deny
  | noMatch
  deriving DecidableEq

namespace Evaluation

def ofEffect : Effect → Evaluation
  | .allow => .allow
  | .deny => .deny

def text : Evaluation → String
  | .allow => "Allow"
  | .deny => "Deny"
  | .noMatch => "NoMatch"

end Evaluation

/-- What a voter says of a request: it grants it, denies it, or leaves it to the voters after it. -/
inductive Vote where
  | granted
  | denied
  | abstain
  deriving DecidableEq

namespace Vote

def verdict? : Vote → Option Bool
  | .granted => some true
  | .denied => some false
  | .abstain => none

/-- The vote that says what a list of policies answered. -/
def ofEvaluation : Evaluation → Vote
  | .allow => .granted
  | .deny => .denied
  | .noMatch => .abstain

def text : Vote → String
  | .granted => "Granted"
  | .denied => "Denied"
  | .abstain => "Abstain"

end Vote

end Arbiter
