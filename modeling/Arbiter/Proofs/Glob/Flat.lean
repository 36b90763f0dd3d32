import Arbiter.Proofs.Glob.Cut

/-!
# Globs without groups

A glob that opens no group is read into one item for every character, leaving out the
backslashes that escape another one. Each of these items is a wildcard or a literal.

* `unescaped`: the characters of a text that no backslash escapes.
* `Means`: what a character can mean outside of any group.
* `Reading.plain_eq_add` and `Reading.read_flat`: what is read outside of any group, character
  by character and for a whole text.
* `depth_le_of_flat`: a glob that opens no group is not nested too deeply, whatever its length.
-/

namespace Arbiter.Glob

/-! ## Escaped characters -/

/-- The characters of a text that no backslash escapes, without the backslashes that escape
others. A glob opens a group where an unescaped brace stands. -/
def unescaped : List Char → List Char
  | [] => []
  | ['\\'] => []
  | '\\' :: _ :: ahead => unescaped ahead
  | c :: ahead => c :: unescaped ahead

theorem unescaped_cons {c : Char} (plain : c ≠ '\\') (ahead : List Char) :
    unescaped (c :: ahead) = c :: unescaped ahead := by
  rw [unescaped]
  · rintro rfl
    exact absurd rfl plain
  · rintro d rest rfl
    exact absurd rfl plain

theorem unescaped_subset (text : List Char) : unescaped text ⊆ text := by
  fun_induction unescaped text with
  | case1 => exact List.nil_subset []
  | case2 => exact List.nil_subset _
  | case3 c ahead ih => exact List.subset_cons_of_subset _ (List.subset_cons_of_subset c ih)
  | case4 c ahead lone pair ih => exact List.cons_subset_cons c ih

/-- A colon is a place where a text can be cut: what is unescaped on either side of it does
not depend on the other. -/
theorem unescaped_cut (before behind : List Char) :
    ∃ between, unescaped (before ++ ':' :: behind) =
      unescaped before ++ (between ++ unescaped behind) := by
  fun_induction unescaped before with
  | case1 => exact ⟨[':'], unescaped_cons (by decide) behind⟩
  | case2 => exact ⟨[], rfl⟩
  | case3 c ahead ih => exact ih
  | case4 c ahead lone pair ih =>
    have plain : c ≠ '\\' := Reading.ne_backslash lone pair
    obtain ⟨between, cut⟩ := ih
    refine ⟨between, ?_⟩
    rw [List.cons_append, unescaped_cons plain, cut, List.cons_append]

/-! ## Items outside of any group -/

/-- What a character can mean outside of any group: itself, or a wildcard. -/
inductive Means : Char → Item → Prop where
  | itself (c : Char) : Means c (.lit c)
  | star : Means '*' .star
  | one : Means '?' .one
  | cross : Means ':' .cross

theorem Means.depth_le {c : Char} {item : Item} (means : Means c item) : item.depth ≤ 2 := by
  cases means with
  | itself => exact Nat.zero_le 2
  | star => exact Nat.le_refl 2
  | one => exact Nat.le_succ 1
  | cross => exact Nat.le_succ 1

namespace Reading

/-- An escaped character adds one item. -/
theorem escaped_eq_add (r : Reading) (c : Char) (ahead : List Char) :
    ∃ item, Means c item ∧ r.escaped c ahead = r.add item := by
  unfold escaped
  split
  · next crossing =>
    obtain ⟨rfl, -⟩ := crossing
    exact ⟨.cross, .cross, rfl⟩
  · exact ⟨.lit c, .itself c, rfl⟩

/-- Outside of any group, every character but an opening brace adds one item. -/
theorem plain_eq_add {r : Reading} {c : Char} (outside : r.groups = []) (unopened : c ≠ '{')
    (ahead : List Char) : ∃ item, Means c item ∧ r.plain c ahead = r.add item := by
  rcases r with ⟨items, groups⟩
  dsimp only at outside
  subst outside
  unfold plain
  split
  · next crossing =>
    obtain ⟨rfl, -⟩ := crossing
    exact ⟨.cross, .cross, rfl⟩
  · split
    · exact ⟨.star, .star, rfl⟩
    · exact ⟨.one, .one, rfl⟩
    · exact absurd rfl unopened
    · exact ⟨.lit ',', .itself ',', rfl⟩
    · exact ⟨.lit '}', .itself '}', rfl⟩
    · exact ⟨.lit c, .itself c, rfl⟩

/-- A text that opens no group is read outside of any group, into what its characters mean. So
whatever holds of these items and of those before them holds of all that has been read. -/
theorem read_flat {holds : Item → Prop} {r : Reading} {text : List Char}
    (outside : r.groups = []) (flat : '{' ∉ unescaped text)
    (meant : ∀ c ∈ text, ∀ item, Means c item → holds item)
    (before : ∀ item ∈ r.items, holds item) :
    (r.read text).groups = [] ∧ ∀ item ∈ (r.read text).items, holds item := by
  fun_induction read r text with
  | case1 r => exact ⟨outside, before⟩
  | case2 r => exact ⟨outside, before⟩
  | case3 r c ahead ih =>
    rw [List.forall_mem_cons, List.forall_mem_cons] at meant
    obtain ⟨-, here, later⟩ := meant
    obtain ⟨item, means, added⟩ := escaped_eq_add r c ahead
    rw [added] at ih ⊢
    apply ih outside flat later
    exact List.forall_mem_append.mpr ⟨before, List.forall_mem_singleton.mpr (here item means)⟩
  | case4 r c ahead lone pair ih =>
    have plain : c ≠ '\\' := ne_backslash lone pair
    rw [unescaped_cons plain, List.mem_cons, not_or] at flat
    rw [List.forall_mem_cons] at meant
    obtain ⟨here, later⟩ := meant
    obtain ⟨item, means, added⟩ := plain_eq_add outside (Ne.symm flat.1) ahead
    rw [added] at ih ⊢
    apply ih outside flat.2 later
    exact List.forall_mem_append.mpr ⟨before, List.forall_mem_singleton.mpr (here item means)⟩

end Reading

/-! ## Whole globs -/

variable {text : List Char} (flat : '{' ∉ unescaped text)

include flat

/-- The items of a glob that opens no group are what its characters mean. -/
theorem forall_items_of_flat {holds : Item → Prop}
    (meant : ∀ c ∈ text, ∀ item, Means c item → holds item) : ∀ item ∈ items text, holds item := by
  obtain ⟨groups, all⟩ := Reading.read_flat (r := .start) rfl flat meant nofun
  rw [items, groups]
  exact all

theorem closed_of_flat : (scan .start text).2.depth = 0 := by
  have outside : (Reading.start.read text).groups = [] ∧
      ∀ item ∈ (Reading.start.read text).items, True :=
    Reading.read_flat rfl flat (fun _ _ _ _ => trivial) nofun
  have depth := (Reading.scan_cursor .start text).2
  rw [outside.1] at depth
  exact depth

theorem deepest_le_of_flat : Item.deepest (items text) ≤ 2 :=
  Item.deepest_le (forall_items_of_flat flat fun _ _ _ means => means.depth_le)

/-- A glob that opens no group is not nested too deeply, whatever its length. It can still be
refused, if its program is too large. -/
theorem depth_le_of_flat : depth (tokens text) ≤ depthLimit := by
  rw [depth_tokens_le_iff]
  exact Nat.lt_of_le_of_lt (deepest_le_of_flat flat) (by decide)

end Arbiter.Glob
