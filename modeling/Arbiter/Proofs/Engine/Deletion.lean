import Arbiter.Event
import Mathlib.Data.List.Forall2

/-!
# Deleting checks from a run

A step of a system is an operation that answers, and leaves the system in another state.
Some operations are checks. What a check changes is not among the things that are known of
a state; the answers, and what is known later, depend on what is known alone.

* `Run.answers` and `Run.after`: what the operations of a run answer, and what it leaves.
* `Unseen`: what one step of such a system has to satisfy.
* `ChecksUnseen`: what this means for runs. Checks may be deleted, and runs that differ only
  in their checks agree.
* `Unseen.checksUnseen`: the first gives the second.
* `Unseen.lift`: a system around another one, where the one inside does the answering.
-/

namespace Arbiter

/-- The entries that a list of flags keeps. -/
def kept {β : Type} : List Bool → List β → List β
  | true :: flags, x :: xs => x :: kept flags xs
  | false :: flags, _ :: xs => kept flags xs
  | _, _ => []

theorem kept_map {β : Type} (p : β → Bool) (xs : List β) : kept (xs.map p) xs = xs.filter p := by
  induction xs with
  | nil => rfl
  | cons x xs ih =>
    rw [List.map_cons, List.filter_cons]
    cases p x with
    | true => exact congrArg (x :: ·) ih
    | false => exact ih

section

variable {σ τ ο α κ ε : Type}

namespace Run

variable (perform : σ → ο → Outcome σ α)

/-- The state after a run. -/
def after (s : σ) (ops : List ο) : σ :=
  ops.foldl (fun s op => (perform s op).state) s

/-- What the operations of a run answer. -/
def answers (s : σ) : List ο → List α
  | [] => []
  | op :: ops => (perform s op).value :: answers (perform s op).state ops

end Run

open Run

/-- A check leaves what is known of a state as it is. What any operation answers, and what
is known after it, depends on what is known alone. -/
structure Unseen (perform : σ → ο → Outcome σ α) (isCheck : ο → Bool) (known : σ → κ) :
    Prop where
  check (s : σ) {op : ο} : isCheck op = true → known (perform s op).state = known s
  value {s t : σ} : known s = known t → ∀ op, (perform s op).value = (perform t op).value
  state {s t : σ} : known s = known t →
    ∀ op, known (perform s op).state = known (perform t op).state

/-- Checks cannot be seen in a run. -/
structure ChecksUnseen (perform : σ → ο → Outcome σ α) (isCheck : ο → Bool) (known : σ → κ) :
    Prop where
  /-- If only checks are deleted from a run, the operations that remain answer as before. -/
  deletion (s : σ) {flags : List Bool} {ops : List ο} :
    List.Forall₂ (fun keep op => keep = false → isCheck op = true) flags ops →
      answers perform s (kept flags ops) = kept flags (answers perform s ops)
  /-- If two runs differ only in where and how often they check, then everything else
  answers the same, and the same is known of the states that they leave. -/
  agreement (s : σ) {ops others : List ο} :
    ops.filter (fun op => !isCheck op) = others.filter (fun op => !isCheck op) →
      kept (ops.map fun op => !isCheck op) (answers perform s ops) =
          kept (others.map fun op => !isCheck op) (answers perform s others) ∧
        known (after perform s ops) = known (after perform s others)
  /-- States of which the same is known answer every run alike. -/
  later {s t : σ} : known s = known t → ∀ ops, answers perform s ops = answers perform t ops

namespace Unseen

variable {perform : σ → ο → Outcome σ α} {isCheck : ο → Bool} {known : σ → κ}

theorem answers_eq (unseen : Unseen perform isCheck known) {s t : σ} (same : known s = known t)
    (ops : List ο) : answers perform s ops = answers perform t ops := by
  induction ops generalizing s t with
  | nil => rfl
  | cons op ops ih =>
    rw [answers, answers, unseen.value same op, ih (unseen.state same op)]

/-- A run without some of its checks stays beside the whole run: the same is known of both
after each operation that remains. -/
theorem kept_run (unseen : Unseen perform isCheck known) {flags : List Bool} {ops : List ο}
    (checks : List.Forall₂ (fun keep op => keep = false → isCheck op = true) flags ops)
    {s t : σ} (same : known s = known t) :
    answers perform s (kept flags ops) = kept flags (answers perform t ops) ∧
      known (after perform s (kept flags ops)) = known (after perform t ops) := by
  induction checks generalizing s t with
  | nil => exact ⟨rfl, same⟩
  | @cons keep op flags ops check _ ih =>
    cases keep with
    | true =>
      obtain ⟨later, left⟩ := ih (unseen.state same op)
      refine ⟨?_, left⟩
      rw [kept, answers, answers, kept, unseen.value same op, later]
    | false => exact ih (same.trans (unseen.check t (check rfl)).symm)

/-- A run is followed by the run of its other operations alone. -/
theorem filter_run (unseen : Unseen perform isCheck known) (s : σ) (ops : List ο) :
    answers perform s (ops.filter fun op => !isCheck op) =
        kept (ops.map fun op => !isCheck op) (answers perform s ops) ∧
      known (after perform s (ops.filter fun op => !isCheck op)) =
        known (after perform s ops) := by
  have checks : List.Forall₂ (fun keep op => keep = false → isCheck op = true)
      (ops.map fun op => !isCheck op) ops :=
    List.forall₂_map_left_iff.mpr (List.forall₂_same.mpr fun op _ skipped =>
      (Bool.not_eq_false' _).mp skipped)
  have run := unseen.kept_run checks rfl (s := s)
  rw [kept_map] at run
  exact run

theorem checksUnseen (unseen : Unseen perform isCheck known) :
    ChecksUnseen perform isCheck known where
  deletion s _ _ checks := (unseen.kept_run checks rfl).1
  agreement s ops others same := by
    obtain ⟨first, left⟩ := unseen.filter_run s ops
    obtain ⟨second, right⟩ := unseen.filter_run s others
    rw [← first, ← left, ← second, ← right, same]
    exact ⟨rfl, rfl⟩
  later := unseen.answers_eq

/-- A system around another one keeps its checks out of sight, if every operation is answered
by the system inside, and what is known of the outside never changes. -/
theorem lift (unseen : Unseen perform isCheck known) {outer : τ → ο → Outcome τ α}
    {core : τ → σ} {fixed : τ → ε}
    (around : ∀ t op, (outer t op).value = (perform (core t) op).value ∧
      core (outer t op).state = (perform (core t) op).state ∧
      fixed (outer t op).state = fixed t) :
    Unseen outer isCheck fun t => (known (core t), fixed t) where
  check t op check := by
    obtain ⟨-, inner, outside⟩ := around t op
    rw [inner, outside, unseen.check (core t) check]
  value same op := by
    rw [(around _ op).1, (around _ op).1]
    exact unseen.value (congrArg Prod.fst same) op
  state same op := by
    obtain ⟨inside, outside⟩ := Prod.mk.inj same
    rw [(around _ op).2.1, (around _ op).2.2, (around _ op).2.1, (around _ op).2.2, outside,
      unseen.state inside op]

end Unseen

end

end Arbiter
