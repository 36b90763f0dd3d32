import Arbiter.Glob.Refusal
import Arbiter.Proofs.Glob.Item
import Mathlib.Data.List.Forall2

/-!
# The depth of items

Nesting depth is counted while tokens are read, level by level. It is a property of the
items that the tokens stand for.

* `Item.depth`, `Item.deepest` and `Item.anchoredDepth`: the depth of an item, of the
  deepest of several, and of an expression made of them.
* `Item.read_sequenceTokens_level` and `Item.depth_sequenceTokens`: reading the tokens of
  items counts this depth.
* `Level.AtMost`: a level that stays at most as deep as another one, whatever follows.
* `foldl_read_atMost`: every token keeps this, so it bounds the depth at the end.
* `depth_alternative_le`: an alternative in place of its group makes nothing deeper.
-/

namespace Arbiter.Glob

/-! ## Depths of joined parts -/

theorem le_joinedDepth (parts deepest : Nat) : deepest ≤ joinedDepth parts deepest := by
  unfold joinedDepth
  split <;> omega

theorem joinedDepth_le_succ (parts deepest : Nat) : joinedDepth parts deepest ≤ deepest + 1 := by
  unfold joinedDepth
  split <;> omega

theorem joinedDepth_of_le_one {parts : Nat} (single : parts ≤ 1) (deepest : Nat) :
    joinedDepth parts deepest = deepest :=
  if_pos single

theorem joinedDepth_of_two_le {parts : Nat} (several : 2 ≤ parts) (deepest : Nat) :
    joinedDepth parts deepest = deepest + 1 :=
  if_neg (Nat.not_le.mpr several)

theorem joinedDepth_mono (parts : Nat) {d e : Nat} (deepest : d ≤ e) :
    joinedDepth parts d ≤ joinedDepth parts e := by
  unfold joinedDepth
  split <;> omega

/-! ## Items -/

namespace Item

mutual

/-- The nesting depth of an item. A group is one level deeper than its alternatives
together. -/
def depth : Item → Nat
  | .lit _ => 0
  | .one => 1
  | .star => 2
  | .cross => 1
  | .group others last =>
    joinedDepth (others.length + 1)
      (max (deepestAlternative others) (joinedDepth last.length (deepest last))) + 1

/-- The depth of the deepest of several items. -/
def deepest : List Item → Nat
  | [] => 0
  | item :: items => max item.depth (deepest items)

/-- The depth of the deepest of several sequences. -/
def deepestAlternative : List (List Item) → Nat
  | [] => 0
  | alternative :: others =>
    max (joinedDepth alternative.length (deepest alternative)) (deepestAlternative others)

end

/-- The depth of a sequence. -/
def sequenceDepth (items : List Item) : Nat :=
  joinedDepth items.length (deepest items)

/-- The depth of items between the two anchors. -/
def anchoredDepth (items : List Item) : Nat :=
  joinedDepth (items.length + 2) (deepest items)

/-- The two anchors are joined with whatever stands between them. -/
theorem anchoredDepth_eq (items : List Item) : anchoredDepth items = deepest items + 1 :=
  joinedDepth_of_two_le (Nat.le_add_left 2 items.length) (deepest items)

theorem deepest_append (items more : List Item) :
    deepest (items ++ more) = max (deepest items) (deepest more) := by
  induction items with
  | nil => rw [List.nil_append, deepest, Nat.zero_max]
  | cons item items ih => rw [List.cons_append, deepest, deepest, ih, Nat.max_assoc]

theorem deepest_le {items : List Item} {bound : Nat}
    (shallow : ∀ item ∈ items, item.depth ≤ bound) : deepest items ≤ bound := by
  induction items with
  | nil => exact Nat.zero_le bound
  | cons item items ih =>
    rw [List.forall_mem_cons] at shallow
    rw [deepest]
    exact Nat.max_le_of_le_of_le shallow.1 (ih shallow.2)

end Item

/-- A level with the items of a sequence added. -/
def Level.addSequence (l : Level) (items : List Item) : Level :=
  { l with
    items := l.items + items.length
    deepestItem := max l.deepestItem (Item.deepest items) }

/-- A level with alternatives ended. -/
def Level.addAlternatives (l : Level) (alternatives : List (List Item)) : Level :=
  ⟨0, 0, l.branches + alternatives.length,
    max l.deepestBranch (Item.deepestAlternative alternatives)⟩

namespace Item

mutual

/-- Reading the tokens of an item adds one item of its depth. -/
theorem read_tokens_level (item : Item) (l : Level) (outer : List Level) :
    item.tokens.foldl Level.read (l, outer) = (l.addItem item.depth, outer) := by
  cases item with
  | lit c => rfl
  | star => rfl
  | one => rfl
  | cross => rfl
  | group others last =>
    have branches := read_branchTokens_level others .empty (l :: outer) rfl rfl
    have sequence := read_sequenceTokens_level last (Level.empty.addAlternatives others)
      (l :: outer)
    rw [tokens, List.foldl_cons, List.foldl_append, List.foldl_append, Level.read, branches,
      sequence, List.foldl_cons, List.foldl_nil, Level.read, depth]
    simp only [Level.addSequence, Level.addAlternatives, Level.depth, Level.endBranch,
      Level.empty, Nat.zero_add, Nat.zero_max]

/-- Reading the tokens of a sequence adds its items. -/
theorem read_sequenceTokens_level (items : List Item) (l : Level) (outer : List Level) :
    (sequenceTokens items).foldl Level.read (l, outer) = (l.addSequence items, outer) := by
  cases items with
  | nil => simp [sequenceTokens, Level.addSequence, deepest]
  | cons item items =>
    rw [sequenceTokens, List.foldl_append, read_tokens_level item,
      read_sequenceTokens_level items]
    simp only [Level.addSequence, Level.addItem, deepest, List.length_cons, Nat.max_assoc,
      Nat.add_assoc, Nat.add_comm 1]

/-- Reading alternatives that are not the last ends a branch for each of them. -/
theorem read_branchTokens_level (others : List (List Item)) (l : Level) (outer : List Level)
    (fresh : l.items = 0) (flat : l.deepestItem = 0) :
    (branchTokens others).foldl Level.read (l, outer) = (l.addAlternatives others, outer) := by
  cases others with
  | nil =>
    rcases l with ⟨_, _, branches, deepestBranch⟩
    subst fresh flat
    simp [branchTokens, Level.addAlternatives, deepestAlternative]
  | cons alternative others =>
    rw [branchTokens, List.foldl_append, List.foldl_cons, read_sequenceTokens_level alternative,
      Level.read, read_branchTokens_level others _ outer rfl rfl]
    simp only [Level.addSequence, Level.addAlternatives, Level.endBranch, deepestAlternative,
      List.length_cons, fresh, flat, Nat.zero_add, Nat.zero_max, Nat.max_assoc, Nat.add_assoc,
      Nat.add_comm 1]

end

theorem le_deepestAlternative {alternatives : List (List Item)} {alternative : List Item}
    (member : alternative ∈ alternatives) :
    sequenceDepth alternative ≤ deepestAlternative alternatives := by
  induction member with
  | head alternatives => exact Nat.le_max_left ..
  | tail other _ ih => exact Nat.le_trans ih (Nat.le_max_right ..)

/-- The depth of an expression is that of its items between the anchors. -/
theorem depth_sequenceTokens (items : List Item) :
    Glob.depth (sequenceTokens items) = anchoredDepth items := by
  rw [Glob.depth, read_sequenceTokens_level]
  simp only [Level.addSequence, Level.anchored, Level.depth, Level.endBranch, Nat.zero_max,
    Nat.add_comm 2, anchoredDepth]
  exact if_pos (Nat.le_refl 1)

/-- The deepest item decides whether the items are nested too deeply. -/
theorem depth_sequenceTokens_le_iff {items : List Item} :
    Glob.depth (sequenceTokens items) ≤ depthLimit ↔ deepest items < depthLimit := by
  rw [depth_sequenceTokens, anchoredDepth_eq, Nat.succ_le_iff]

/-- A group is deeper than each of its alternatives. -/
theorem sequenceDepth_lt_depth_group {others : List (List Item)} {last alternative : List Item}
    (member : alternative ∈ others ++ [last]) :
    sequenceDepth alternative < (group others last).depth := by
  have inner : sequenceDepth alternative ≤
      max (deepestAlternative others) (joinedDepth last.length (deepest last)) := by
    rcases List.mem_append.mp member with earlier | final
    · exact Nat.le_trans (le_deepestAlternative earlier) (Nat.le_max_left ..)
    · rw [List.mem_singleton.mp final]
      exact Nat.le_max_right ..
  rw [depth]
  exact Nat.lt_succ_of_le (Nat.le_trans inner (le_joinedDepth ..))

end Item

/-! ## Levels that stay at most as deep -/

/-- A level that is at most as deep as another one, and stays so whatever is read in both.
A level without items is flat, and the other one has items if this one has any. -/
structure Level.AtMost (l m : Level) : Prop where
  flat : l.items = 0 → l.deepestItem = 0
  items : m.items = 0 → l.items = 0
  deepestItem : l.deepestItem ≤ m.deepestItem
  joined : joinedDepth l.items l.deepestItem ≤ joinedDepth m.items m.deepestItem
  branches : l.branches = m.branches
  deepestBranch : l.deepestBranch ≤ m.deepestBranch

namespace Level.AtMost

theorem empty : Level.AtMost .empty .empty :=
  ⟨fun _ => rfl, fun _ => rfl, Nat.le_refl _, Nat.le_refl _, rfl, Nat.le_refl _⟩

theorem anchored : Level.AtMost .anchored .anchored :=
  ⟨fun _ => rfl, nofun, Nat.le_refl _, Nat.le_refl _, rfl, Nat.le_refl _⟩

variable {l m : Level} (atMost : Level.AtMost l m)

include atMost

theorem addItem {d e : Nat} (shallower : d ≤ e) :
    Level.AtMost (l.addItem d) (m.addItem e) := by
  obtain ⟨flat, items, deepestItem, -, branches, deepestBranch⟩ := atMost
  have deepest : max l.deepestItem d ≤ max m.deepestItem e := by omega
  refine ⟨nofun, nofun, deepest, ?_, branches, deepestBranch⟩
  simp only [Level.addItem]
  rcases Nat.eq_zero_or_pos m.items with none | some
  · rw [none, items none]
    exact joinedDepth_mono 1 deepest
  · rw [joinedDepth_of_two_le (by omega) (max m.deepestItem e)]
    exact Nat.le_trans (joinedDepth_le_succ ..) (Nat.succ_le_succ deepest)

theorem endBranch : Level.AtMost l.endBranch m.endBranch := by
  obtain ⟨-, -, -, joined, branches, deepestBranch⟩ := atMost
  refine ⟨fun _ => rfl, fun _ => rfl, Nat.le_refl _, Nat.le_refl _, ?_, ?_⟩
  · simp only [Level.endBranch, branches]
  · simp only [Level.endBranch]
    omega

theorem depth_le : l.depth ≤ m.depth := by
  have ended := atMost.endBranch
  rw [Level.depth, Level.depth, ended.branches]
  exact joinedDepth_mono _ ended.deepestBranch

/-- A level stays at most as deep if the other one takes a single item in place of its
sequence, and this item is deeper than the sequence. -/
theorem addSequence_addItem {sequence : List Item} {d : Nat}
    (shallower : Item.sequenceDepth sequence < d) :
    Level.AtMost (l.addSequence sequence) (m.addItem d) := by
  obtain ⟨flat, items, deepestItem, -, branches, deepestBranch⟩ := atMost
  have within : Item.deepest sequence ≤ Item.sequenceDepth sequence := le_joinedDepth ..
  have deepest : max l.deepestItem (Item.deepest sequence) ≤ max m.deepestItem d := by omega
  refine ⟨fun none => ?_, nofun, deepest, ?_, branches, deepestBranch⟩
  · simp only [Level.addSequence, Nat.add_eq_zero_iff, List.length_eq_zero_iff] at none ⊢
    rw [flat none.1, none.2]
    rfl
  · simp only [Level.addSequence, Level.addItem]
    rcases Nat.eq_zero_or_pos m.items with none | some
    · rw [none, items none, flat (items none), Nat.zero_add, Nat.zero_max,
        joinedDepth_of_le_one (Nat.le_refl 1)]
      exact Nat.le_trans (Nat.le_of_lt shallower) (Nat.le_max_right ..)
    · rw [joinedDepth_of_two_le (by omega) (max m.deepestItem d)]
      exact Nat.le_trans (joinedDepth_le_succ ..) (Nat.succ_le_succ deepest)

end Level.AtMost

/-- One token keeps every level at most as deep as its counterpart. -/
theorem read_atMost {l m : Level} {outer around : List Level} (current : l.AtMost m)
    (outside : List.Forall₂ Level.AtMost outer around) (token : Token) :
    (Level.read (l, outer) token).1.AtMost (Level.read (m, around) token).1 ∧
      List.Forall₂ Level.AtMost (Level.read (l, outer) token).2
        (Level.read (m, around) token).2 := by
  cases token with
  | lit c => exact ⟨current.addItem (Nat.le_refl 0), outside⟩
  | one => exact ⟨current.addItem (Nat.le_refl 1), outside⟩
  | star => exact ⟨current.addItem (Nat.le_refl 2), outside⟩
  | cross => exact ⟨current.addItem (Nat.le_refl 1), outside⟩
  | opening => exact ⟨.empty, .cons current outside⟩
  | bar =>
    cases outside with
    | nil => exact ⟨current.endBranch, .nil⟩
    | cons next outside => exact ⟨current.endBranch, .cons next outside⟩
  | closing =>
    cases outside with
    | nil => exact ⟨current, .nil⟩
    | cons next outside =>
      exact ⟨next.addItem (Nat.succ_le_succ current.depth_le), outside⟩

theorem foldl_read_atMost {l m : Level} {outer around : List Level} (current : l.AtMost m)
    (outside : List.Forall₂ Level.AtMost outer around) (tokens : List Token) :
    (tokens.foldl Level.read (l, outer)).1.AtMost (tokens.foldl Level.read (m, around)).1 ∧
      List.Forall₂ Level.AtMost (tokens.foldl Level.read (l, outer)).2
        (tokens.foldl Level.read (m, around)).2 := by
  induction tokens generalizing l m outer around with
  | nil => exact ⟨current, outside⟩
  | cons token tokens ih =>
    obtain ⟨next, beyond⟩ := read_atMost current outside token
    exact ih next beyond

/-- An alternative in place of its group does not make an expression deeper, wherever the
group stands. -/
theorem depth_alternative_le {others : List (List Item)} {last alternative : List Item}
    (member : alternative ∈ others ++ [last]) (before after : List Token) :
    depth (before ++ Item.sequenceTokens alternative ++ after) ≤
      depth (before ++ (Item.group others last).tokens ++ after) := by
  have reached := foldl_read_atMost .anchored .nil before
  simp only [depth, List.foldl_append]
  generalize before.foldl Level.read (.anchored, []) = state at reached ⊢
  obtain ⟨l, outer⟩ := state
  obtain ⟨here, around⟩ := reached
  rw [Item.read_sequenceTokens_level, Item.read_tokens_level]
  have replaced := here.addSequence_addItem (Item.sequenceDepth_lt_depth_group member)
  exact (foldl_read_atMost replaced around after).1.depth_le

end Arbiter.Glob
