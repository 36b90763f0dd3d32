import Arbiter.Proofs.Glob.Cut
import Arbiter.Proofs.Glob.Expression

/-!
# Open groups and nesting depth

How deep an expression is nested depends on the parts that each group joins. The number of
groups that a glob has open at once bounds it from both sides: a group adds one level at
least, for itself, and three at most, with one for its alternatives and one for a sequence
among them.

* `peak`: the greatest number of groups that are open at once while a glob is scanned.
* `Item.height`: how many groups of an item stand one inside the other.
* `peak_eq_sequenceHeight`: the peak of a scan is the height of the items that it finds.
* `depth_bounds`: the peak bounds the depth from below and from above.
* `depth_of_sentence`: the depth is that of the items which the expression is made of.
* `towerGlob` and `items_towerGlob`: a glob that opens the same group again and again.
* `bareTower_reaches` and `steepTower_reaches`: both bounds are reached at every peak.
* `Pattern.refused_by_peak`: which peaks leave a pattern with an expression.
-/

namespace Arbiter.Glob

/-- The greatest number of groups that are open at once while a text is scanned. -/
def peak (s : Cursor) : List Char → Nat
  | [] => s.depth
  | c :: ahead => max s.depth (peak (s.read c ahead).2 ahead)

/-! ## The peak of tokens -/

/-- The number of groups that are open behind a token. -/
def Token.openBehind (around : Nat) : Token → Nat
  | .opening => around + 1
  | .closing => around - 1
  | _ => around

/-- The greatest number of groups that are open at once among tokens. -/
def tokenPeak (around : Nat) : List Token → Nat
  | [] => around
  | token :: tokens => max around (tokenPeak (token.openBehind around) tokens)

theorem le_tokenPeak (around : Nat) (tokens : List Token) : around ≤ tokenPeak around tokens := by
  cases tokens with
  | nil => exact Nat.le_refl around
  | cons token tokens => exact Nat.le_max_left ..

/-- Reading opens and closes the groups that the token opens and closes, if there is one. -/
theorem Cursor.depth_read (s : Cursor) (c : Char) (ahead : List Char) :
    (s.read c ahead).2.depth = (s.read c ahead).1.elim s.depth (Token.openBehind s.depth) := by
  rcases s with ⟨escaping, depth⟩
  unfold Cursor.read
  split
  · rfl
  · cases escaping with
    | true => rfl
    | false =>
      rw [if_neg Bool.false_ne_true]
      split
      · rfl
      · rfl
      · rfl
      · rfl
      · -- A brace closes a group only if one is open.
        cases depth with
        | zero => rfl
        | succ depth => rfl
      · by_cases outside : depth = 0
        · rw [if_pos outside]
          rfl
        · rw [if_neg outside]
          rfl
      · rfl

/-- A scan has the peak of the tokens that it finds. -/
theorem peak_eq_tokenPeak (s : Cursor) (text : List Char) :
    peak s text = tokenPeak s.depth (scan s text).1 := by
  induction text generalizing s with
  | nil => rfl
  | cons c text ih =>
    have behind := s.depth_read c text
    rcases step : s.read c text with ⟨token, next⟩
    rw [step] at behind
    rw [peak, step, Reading.scan_cons_of_read step, ih next, behind]
    cases token with
    | none => exact Nat.max_eq_right (le_tokenPeak s.depth _)
    | some token => rfl

theorem tokenPeak_replicate_closing (around closed : Nat) :
    tokenPeak around (List.replicate closed .closing) = around := by
  induction closed generalizing around with
  | zero => rfl
  | succ closed ih =>
    have below := ih (around - 1)
    rw [List.replicate_succ, tokenPeak, Token.openBehind, below]
    omega

/-- Closing groups at the end raises no peak. -/
theorem tokenPeak_append_closings (around : Nat) (tokens : List Token) (closed : Nat) :
    tokenPeak around (tokens ++ List.replicate closed .closing) = tokenPeak around tokens := by
  induction tokens generalizing around with
  | nil => exact tokenPeak_replicate_closing around closed
  | cons token tokens ih => rw [List.cons_append, tokenPeak, ih, tokenPeak]

namespace Item

/-! ## The height of items -/

mutual

/-- How many groups of an item stand one inside the other. -/
def height : Item → Nat
  | .group others last => max (alternativesHeight others) (sequenceHeight last) + 1
  | _ => 0

/-- The height of the highest of several items. -/
def sequenceHeight : List Item → Nat
  | [] => 0
  | item :: items => max item.height (sequenceHeight items)

/-- The height of the highest of several sequences. -/
def alternativesHeight : List (List Item) → Nat
  | [] => 0
  | alternative :: others => max (sequenceHeight alternative) (alternativesHeight others)

end

theorem sequenceHeight_append (items more : List Item) :
    sequenceHeight (items ++ more) = max (sequenceHeight items) (sequenceHeight more) := by
  induction items with
  | nil => rw [List.nil_append, sequenceHeight, Nat.zero_max]
  | cons item items ih =>
    rw [List.cons_append, sequenceHeight, sequenceHeight, ih, Nat.max_assoc]

mutual

/-- Among other tokens, those of an item reach as high as the item. -/
theorem tokenPeak_tokens (item : Item) (around : Nat) (rest : List Token) :
    tokenPeak around (item.tokens ++ rest) =
      max (around + item.height) (tokenPeak around rest) := by
  cases item with
  | lit c => rfl
  | star => rfl
  | one => rfl
  | cross => rfl
  | group others last =>
    have branches := tokenPeak_branchTokens others (around + 1)
      (sequenceTokens last ++ .closing :: rest)
    have sequence := tokenPeak_sequenceTokens last (around + 1) (.closing :: rest)
    have behind : tokenPeak (around + 1) (.closing :: rest) =
        max (around + 1) (tokenPeak around rest) := rfl
    have inner : tokenPeak around ((group others last).tokens ++ rest) =
        max around (tokenPeak (around + 1)
          (branchTokens others ++ (sequenceTokens last ++ .closing :: rest))) := by
      simp only [tokens, List.cons_append, List.append_assoc, List.nil_append, tokenPeak,
        Token.openBehind]
    rw [inner, branches, sequence, behind, height]
    omega

theorem tokenPeak_sequenceTokens (items : List Item) (around : Nat) (rest : List Token) :
    tokenPeak around (sequenceTokens items ++ rest) =
      max (around + sequenceHeight items) (tokenPeak around rest) := by
  cases items with
  | nil => exact (Nat.max_eq_right (le_tokenPeak around rest)).symm
  | cons item items =>
    have first := tokenPeak_tokens item around (sequenceTokens items ++ rest)
    have later := tokenPeak_sequenceTokens items around rest
    rw [sequenceTokens, List.append_assoc, first, later, sequenceHeight]
    omega

theorem tokenPeak_branchTokens (others : List (List Item)) (around : Nat)
    (rest : List Token) :
    tokenPeak around (branchTokens others ++ rest) =
      max (around + alternativesHeight others) (tokenPeak around rest) := by
  cases others with
  | nil => exact (Nat.max_eq_right (le_tokenPeak around rest)).symm
  | cons alternative others =>
    have first := tokenPeak_sequenceTokens alternative around
      (.bar :: (branchTokens others ++ rest))
    have bar : tokenPeak around (.bar :: (branchTokens others ++ rest)) =
        max around (tokenPeak around (branchTokens others ++ rest)) := rfl
    have later := tokenPeak_branchTokens others around rest
    rw [branchTokens, List.append_assoc, List.cons_append, first, bar, later,
      alternativesHeight]
    omega

end

mutual

/-- Each group around another one makes an item one to three levels deeper. -/
theorem depth_bounds (item : Item) :
    item.height ≤ item.depth ∧ item.depth ≤ 3 * item.height + 2 := by
  cases item with
  | lit c => exact ⟨Nat.le_refl 0, Nat.zero_le 2⟩
  | star => exact ⟨Nat.zero_le 2, Nat.le_refl 2⟩
  | one => exact ⟨Nat.zero_le 1, Nat.le_succ 1⟩
  | cross => exact ⟨Nat.zero_le 1, Nat.le_succ 1⟩
  | group others last =>
    have branches := deepestAlternative_bounds others
    have sequence := deepest_bounds last
    have joined := le_joinedDepth last.length (deepest last)
    have joined' := joinedDepth_le_succ last.length (deepest last)
    have outer := le_joinedDepth (others.length + 1)
      (max (deepestAlternative others) (joinedDepth last.length (deepest last)))
    have outer' := joinedDepth_le_succ (others.length + 1)
      (max (deepestAlternative others) (joinedDepth last.length (deepest last)))
    rw [height, depth]
    omega

theorem deepest_bounds (items : List Item) :
    sequenceHeight items ≤ deepest items ∧ deepest items ≤ 3 * sequenceHeight items + 2 := by
  cases items with
  | nil => exact ⟨Nat.le_refl 0, Nat.zero_le 2⟩
  | cons item items =>
    have first := depth_bounds item
    have later := deepest_bounds items
    rw [sequenceHeight, deepest]
    omega

/-- Alternatives are one level deeper still, where one of them is a sequence. -/
theorem deepestAlternative_bounds (others : List (List Item)) :
    alternativesHeight others ≤ deepestAlternative others ∧
      deepestAlternative others ≤ 3 * alternativesHeight others + 3 := by
  cases others with
  | nil => exact ⟨Nat.le_refl 0, Nat.zero_le 3⟩
  | cons alternative others =>
    have first := deepest_bounds alternative
    have joined := le_joinedDepth alternative.length (deepest alternative)
    have joined' := joinedDepth_le_succ alternative.length (deepest alternative)
    have later := deepestAlternative_bounds others
    rw [alternativesHeight, deepestAlternative]
    omega

end

end Item

/-! ## Whole globs -/

/-- A scan has the height of the items that it finds for its peak. -/
theorem peak_eq_sequenceHeight (glob : List Char) :
    peak .start glob = Item.sequenceHeight (items glob) := by
  have found := scan_start_closed glob
  have height := Item.tokenPeak_sequenceTokens (items glob) 0 []
  have bottom : tokenPeak 0 [] = 0 := rfl
  rw [List.append_nil, ← found, tokenPeak_append_closings, bottom, Nat.max_zero, Nat.zero_add]
    at height
  rw [peak_eq_tokenPeak]
  exact height

theorem depth_bounds (glob : List Char) :
    peak .start glob + 1 ≤ depth (tokens glob) ∧
      depth (tokens glob) ≤ 3 * peak .start glob + 3 := by
  by_cases lone : glob = ['*']
  · subst lone
    decide
  · have bounds := Item.deepest_bounds (items glob)
    rw [depth_tokens lone, peak_eq_sequenceHeight]
    omega

/-- The nesting depth of a glob is that of the items that its written expression is made of. -/
theorem depth_of_sentence {glob : String} {items : List Item}
    (sentence : Sentence (expression glob).toList items) :
    depth (tokens glob.toList) = Item.anchoredDepth items := by
  obtain ⟨found, read⟩ := exists_tokens_eq glob.toList
  have own : Sentence (expression glob).toList found := by
    rw [expression, String.toList_ofList]
    exact sentence_expressionChars read
  rw [sentence.unique own, read, Item.depth_sequenceTokens]

/-! ## Globs that reach the bounds -/

/-- So many copies of a text, one behind the other, and another text at their end. -/
def towerGlob (step top : List Char) : Nat → List Char
  | 0 => top
  | n + 1 => step ++ towerGlob step top n

/-- Groups one inside the other: each is the last item of a sequence, and holds the next
sequence as its last alternative. -/
def towerItems (before : List Item) (ended : List (List Item)) (top : List Item) :
    Nat → List Item
  | 0 => top
  | n + 1 => before ++ [.group ended (towerItems before ended top n)]

section

variable {step top : List Char} {before : List Item} {ended : List (List Item)}
  {topItems : List Item}

/-- A text that opens a group again and again is read into a tower of groups. -/
theorem items_towerGlob
    (steps : ∀ (r : Reading) (ahead : List Char), r.read (step ++ ahead) =
      Reading.read ⟨[], ⟨r.items ++ before, ended⟩ :: r.groups⟩ ahead)
    (tops : ∀ r : Reading, r.read top = ⟨r.items ++ topItems, r.groups⟩) (n : Nat) :
    items (towerGlob step top n) = towerItems before ended topItems n := by
  have finished (r : Reading) :
      Reading.finish (r.read (towerGlob step top n)).items
          (r.read (towerGlob step top n)).groups =
        Reading.finish (r.items ++ towerItems before ended topItems n) r.groups := by
    induction n generalizing r with
    | zero => rw [towerGlob, tops, towerItems]
    | succ n ih =>
      rw [towerGlob, steps, ih, List.nil_append, Reading.finish, towerItems, List.append_assoc]
  exact finished .start

/-- A tower is as high as it has groups, if there are no others in it. -/
theorem sequenceHeight_towerItems (before_flat : Item.sequenceHeight before = 0)
    (ended_flat : Item.alternativesHeight ended = 0)
    (top_flat : Item.sequenceHeight topItems = 0) (n : Nat) :
    Item.sequenceHeight (towerItems before ended topItems n) = n := by
  induction n with
  | zero => exact top_flat
  | succ n ih =>
    rw [towerItems, Item.sequenceHeight_append, Item.sequenceHeight, Item.sequenceHeight,
      Item.height, ih, before_flat, ended_flat]
    omega

theorem towerGlob_ne_lone_star {c : Char} (other : c ≠ '*') (last : top ≠ ['*']) (n : Nat) :
    towerGlob (c :: step) top n ≠ ['*'] := by
  cases n with
  | zero => exact last
  | succ n => exact fun lone => other (List.cons.inj lone).1

end

/-- Groups of a single item each cost one level. -/
theorem deepest_bareTower (n : Nat) : Item.deepest (towerItems [] [] [] n) = n := by
  have single (n : Nat) : (towerItems [] [] [] n).length ≤ 1 := by
    cases n with
    | zero => exact Nat.zero_le 1
    | succ n => exact Nat.le_refl 1
  induction n with
  | zero => rfl
  | succ n ih =>
    rw [towerItems, List.nil_append, Item.deepest, Item.deepest, Item.depth, ih,
      joinedDepth_of_le_one (single n), List.length_nil, Nat.zero_add,
      joinedDepth_of_le_one (Nat.le_refl 1), Item.deepestAlternative, Nat.zero_max, Nat.max_zero]

/-- Groups of two alternatives, one of which is a sequence of two items, cost three levels. -/
theorem deepest_steepTower (n : Nat) :
    Item.deepest (towerItems [.lit 'a'] [[]] [.lit 'a', .star] n) = 3 * n + 2 := by
  have pair (n : Nat) : (towerItems [.lit 'a'] [[]] [.lit 'a', .star] n).length = 2 := by
    cases n with
    | zero => rfl
    | succ n => rfl
  induction n with
  | zero => rfl
  | succ n ih =>
    have alternatives (deepest : Nat) :
        joinedDepth ([([] : List Item)].length + 1) deepest = deepest + 1 :=
      joinedDepth_of_two_le (Nat.le_refl 2) deepest
    have empty : Item.deepestAlternative [[]] = 0 := rfl
    rw [towerItems, List.singleton_append, Item.deepest, Item.deepest, Item.deepest, Item.depth,
      Item.depth, ih, pair, joinedDepth_of_two_le (Nat.le_refl 2), alternatives, empty]
    omega

/-- A glob of bare groups is as shallow as the lower bound. -/
theorem bareTower_reaches (n : Nat) :
    peak .start (towerGlob ['{'] [] n) = n ∧ depth (tokens (towerGlob ['{'] [] n)) = n + 1 := by
  have read : items (towerGlob ['{'] [] n) = towerItems [] [] [] n := by
    apply items_towerGlob
    · intro r ahead
      rw [List.append_nil]
      rfl
    · intro r
      rw [List.append_nil]
      rfl
  have several : towerGlob ['{'] [] n ≠ ['*'] :=
    towerGlob_ne_lone_star (by decide) (by decide) n
  rw [depth_tokens several, peak_eq_sequenceHeight, read, deepest_bareTower]
  exact ⟨sequenceHeight_towerItems rfl rfl rfl n, rfl⟩

/-- A glob whose groups join two alternatives, and a sequence in one of them, is as deep as the
upper bound. -/
theorem steepTower_reaches (n : Nat) :
    peak .start (towerGlob ['a', '{', ','] ['a', '*'] n) = n ∧
      depth (tokens (towerGlob ['a', '{', ','] ['a', '*'] n)) = 3 * n + 3 := by
  have read : items (towerGlob ['a', '{', ','] ['a', '*'] n) =
      towerItems [.lit 'a'] [[]] [.lit 'a', .star] n := by
    apply items_towerGlob
    · intro r ahead
      rfl
    · intro r
      exact congrArg (Reading.mk · r.groups) (List.append_assoc ..)
  have several : towerGlob ['a', '{', ','] ['a', '*'] n ≠ ['*'] :=
    towerGlob_ne_lone_star (by decide) (by decide) n
  rw [depth_tokens several, peak_eq_sequenceHeight, read, deepest_steepTower]
  exact ⟨sequenceHeight_towerItems rfl rfl rfl n, rfl⟩

end Arbiter.Glob

namespace Arbiter.Pattern

open Glob

section

variable [SizeLimit]

/-- A pattern has no expression if that would be nested more than 250 levels deep. -/
theorem expression?_of_deep {glob : String} (deep : 250 < depth (tokens glob.toList)) :
    Refused (tokens glob.toList) ∧ (compile glob).expression? = none :=
  ⟨refused_of_deep deep, expression?_of_refused (refused_of_deep deep)⟩

theorem expression?_of_shallow {glob : String} (shallow : depth (tokens glob.toList) ≤ 250)
    (small : fits (tokens glob.toList)) :
    ¬ Refused (tokens glob.toList) ∧ (compile glob).expression? = some (expression glob) := by
  have readable : ¬ Refused (tokens glob.toList) := not_refused_iff.mpr ⟨shallow, small⟩
  refine ⟨readable, ?_⟩
  rw [compile, expression?, if_neg readable]

/-- **When a glob is compared as it stands.** The number of groups that are open at once bounds
the nesting depth of the expression: it is at least one more, and at most three more than three
times the number. Suppose that no expression is refused for anything but its depth. Then a glob
with at most 82 groups open at once has an expression, whatever its length, and one with 250 or
more has none and accepts only itself. At every number of groups some glob reaches the lower
bound, and some glob the upper one. So with 83 groups a glob may be refused, and with 249 it may
still have an expression. -/
theorem refused_by_peak (unlimited : ∀ tokens : List Token, fits tokens) :
    (∀ glob : String,
      let groups := peak .start glob.toList
      (∀ items, Sentence (expression glob).toList items →
          depth (tokens glob.toList) = Item.anchoredDepth items) ∧
        (groups + 1 ≤ depth (tokens glob.toList) ∧
          depth (tokens glob.toList) ≤ 3 * groups + 3) ∧
        (groups ≤ 82 → (compile glob).expression? = some (expression glob)) ∧
        (250 ≤ groups → Refused (tokens glob.toList) ∧ (compile glob).expression? = none ∧
          ∀ candidate, (compile glob).accepts candidate = true ↔ candidate = glob)) ∧
      (∀ n : Nat,
        (∃ glob : String, peak .start glob.toList = n ∧ depth (tokens glob.toList) = n + 1) ∧
          ∃ glob : String,
            peak .start glob.toList = n ∧ depth (tokens glob.toList) = 3 * n + 3) ∧
      (∃ glob : String, peak .start glob.toList = 83 ∧ Refused (tokens glob.toList) ∧
        (compile glob).expression? = none) ∧
      ∃ glob : String, peak .start glob.toList = 249 ∧ ¬ Refused (tokens glob.toList) ∧
        (compile glob).expression? = some (expression glob) := by
  have least (n : Nat) :
      ∃ glob : String, peak .start glob.toList = n ∧ depth (tokens glob.toList) = n + 1 := by
    refine ⟨String.ofList (towerGlob ['{'] [] n), ?_⟩
    rw [String.toList_ofList]
    exact bareTower_reaches n
  have greatest (n : Nat) :
      ∃ glob : String, peak .start glob.toList = n ∧ depth (tokens glob.toList) = 3 * n + 3 := by
    refine ⟨String.ofList (towerGlob ['a', '{', ','] ['a', '*'] n), ?_⟩
    rw [String.toList_ofList]
    exact steepTower_reaches n
  refine ⟨fun glob => ?_, fun n => ⟨least n, greatest n⟩, ?_, ?_⟩
  · have bounds := depth_bounds glob.toList
    refine ⟨fun _ sentence => depth_of_sentence sentence, bounds, fun few => ?_, fun many => ?_⟩
    · have shallow : depth (tokens glob.toList) ≤ 250 := by omega
      exact (expression?_of_shallow shallow (unlimited _)).2
    · have deep : 250 < depth (tokens glob.toList) := by omega
      obtain ⟨refused, none_left⟩ := expression?_of_deep deep
      exact ⟨refused, none_left, accepts_compile_iff_eq refused⟩
  · obtain ⟨glob, reached, upper⟩ := greatest 83
    have deep : 250 < depth (tokens glob.toList) := by omega
    exact ⟨glob, reached, expression?_of_deep deep⟩
  · obtain ⟨glob, reached, lower⟩ := least 249
    have shallow : depth (tokens glob.toList) ≤ 250 := by omega
    exact ⟨glob, reached, expression?_of_shallow shallow (unlimited _)⟩

end

/-- An engine that allows programs of any size. -/
@[reducible] def unlimited : SizeLimit where
  fits _ := true
  fits_cross := rfl

/-- Two groups, one of which is left open, and 250 groups one inside the other. -/
theorem refused_by_peak_of_open_groups :
    letI := unlimited
    (∀ tokens : List Token, fits tokens) ∧
      (compile "\x7ba,\x7b*\x7d:**").expression? = some "^(?:a|(?:[^:]*).*[^:]*[^:]*)$" ∧
      (compile (String.ofList (towerGlob ['{'] [] 250))).expression? = none := by
  let _ := unlimited
  have all : ∀ tokens : List Token, fits tokens := fun _ => rfl
  have shallow := (refused_by_peak all).1 "\x7ba,\x7b*\x7d:**"
  have deep := (refused_by_peak all).1 (String.ofList (towerGlob ['{'] [] 250))
  rw [String.toList_ofList, (bareTower_reaches 250).1] at deep
  exact ⟨all, shallow.2.2.1 (by decide), (deep.2.2.2 (Nat.le_refl 250)).2.1⟩

end Arbiter.Pattern
