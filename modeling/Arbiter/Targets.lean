import Arbiter.Pattern
import Arbiter.Urn

/-!
# Targets

The globs that a policy names in one dimension: its subjects, its actions or its
resources. A dimension may also be left open, and an open dimension is handed on
as the single label `**`.
-/

namespace Arbiter

abbrev Targets := List String

namespace Targets

/-- The label of a dimension left open. -/
def any : Targets := [Pattern.anyGlob]

/-- The dimension as it is handed on: an empty list stays empty. -/
def orAny (targets : Option Targets) : Targets :=
  targets.getD any

/-- Reads a dimension that was handed on: the label means an open dimension. -/
def ofLabel (targets : Targets) : Option Targets :=
  if targets = any then none else some targets

/-- A single name as the only target. Its text is read as a glob. -/
def ofUrn (u : Urn) : Targets := [u.text]

/-- The patterns of a dimension. An open or empty dimension holds the pattern that
matches everything, so there is always at least one. -/
def patterns [Glob.SizeLimit] : Option Targets → List Pattern
  | none => [Pattern.any]
  | some [] => [Pattern.any]
  | some (glob :: globs) => (glob :: globs).map Pattern.compile

theorem patterns_ne_nil [Glob.SizeLimit] (targets : Option Targets) : patterns targets ≠ [] := by
  rcases targets with _ | _ | _ <;> simp [patterns]

end Targets

end Arbiter
