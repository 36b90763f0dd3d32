import Arbiter.Policy

/-!
# What a dimension lets through

A dimension of a policy is a list of globs, of which one has to accept a text. If it is open, or
names no glob, it lets every text through.

* `Targets.Admits`: the texts that a dimension lets through.
* `Targets.admits_iff` and `Targets.admits_single_iff`: which texts these are, for any dimension
  and for one with a single glob.
* `Targets.admits_congr`: only the globs matter that a dimension names, and not their order.
-/

namespace Arbiter.Targets

/-- The globs that a dimension names. An open one names none. -/
def named (targets : Option Targets) : Targets :=
  targets.getD []

variable [Glob.SizeLimit]

/-- Some pattern of the dimension accepts the text. -/
def Admits (targets : Option Targets) (text : String) : Prop :=
  Policy.anyAccepts (patterns targets) text = true

instance (targets : Option Targets) (text : String) : Decidable (Admits targets text) :=
  inferInstanceAs (Decidable (_ = true))

variable {targets : Option Targets} {text : String}

/-- A dimension lets through what one of its globs accepts, and everything if it names none. -/
theorem admits_iff :
    Admits targets text ↔
      named targets = [] ∨ ∃ glob ∈ named targets, (Pattern.compile glob).accepts text = true := by
  rcases targets with _ | _ | ⟨glob, globs⟩
  · exact iff_of_true rfl (.inl rfl)
  · exact iff_of_true rfl (.inl rfl)
  · have globs_named : named (some (glob :: globs)) ≠ [] := List.cons_ne_nil glob globs
    have compiled : patterns (some (glob :: globs)) =
        (named (some (glob :: globs))).map Pattern.compile := rfl
    rw [or_iff_right globs_named, Admits, compiled, Policy.anyAccepts, List.any_map,
      List.any_eq_true]
    rfl

theorem admits_single_iff {glob : String} :
    Admits (some [glob]) text ↔ (Pattern.compile glob).accepts text = true := by
  have single : named (some [glob]) = [glob] := rfl
  rw [admits_iff, single, or_iff_right (List.cons_ne_nil glob [])]
  simp only [List.mem_singleton, exists_eq_left]

/-- Dimensions with the same globs let the same texts through. -/
theorem admits_congr {others : Option Targets}
    (same : ∀ glob, glob ∈ named targets ↔ glob ∈ named others) :
    Admits targets text ↔ Admits others text := by
  have empty : named targets = [] ↔ named others = [] := by
    simp only [List.eq_nil_iff_forall_not_mem, same]
  rw [admits_iff, admits_iff, empty]
  simp only [same]

end Arbiter.Targets
