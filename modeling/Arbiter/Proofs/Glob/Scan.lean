import Arbiter.Proofs.Glob.Reading

/-!
# Scanning a text in parts

Where a text ends, the cursor is all that a scan needs to go on with the text behind it.
The exception is a crossing `:**` that begins in one text and ends in the next: its colon
looks two characters ahead.

* `CrossingAt` and `Apart`: where crossings stand, and that none of them stands across the
  border of two texts.
* `Cursor.read_cases`: the two ways in which a character is read.
* `scan_append`: two texts that are apart are scanned one after the other.
* `SelfContained`: a text that leaves the groups around it alone.
* `scan_of_selfContained`: such a text is scanned into its own items, however many groups
  are open around it.
-/

namespace Arbiter.Glob

/-- A crossing stands at a position of a text. -/
def CrossingAt (text : List Char) (i : Nat) : Prop :=
  [':', '*', '*'] <+: text.drop i

instance (text : List Char) (i : Nat) : Decidable (CrossingAt text i) :=
  inferInstanceAs (Decidable (_ <+: _))

/-- No crossing begins in a text and ends in the text behind it. -/
def Apart (text rest : List Char) : Prop :=
  ∀ i < text.length, CrossingAt (text ++ rest) i → i + 3 ≤ text.length

instance (text rest : List Char) : Decidable (Apart text rest) :=
  inferInstanceAs (Decidable (∀ i < text.length, _))

namespace Apart

theorem of_cons {c : Char} {text rest : List Char} (apart : Apart (c :: text) rest) :
    Apart text rest := by
  intro i inside crossing
  have shifted := apart (i + 1) (Nat.succ_lt_succ inside) crossing
  rw [List.length_cons] at shifted
  omega

/-- A crossing goes on with stars, so a text that begins with anything else is apart from
whatever stands before it. -/
theorem of_head_ne {rest : List Char} (head : rest.head? ≠ some '*') (text : List Char) :
    Apart text rest := by
  intro i inside ⟨after, crossing⟩
  apply Nat.le_of_not_lt
  intro short
  have border : (text ++ rest)[text.length]? = some '*' := by
    have ahead : (text ++ rest)[text.length]? =
        ([':', '*', '*'] ++ after)[text.length - i]? := by
      rw [crossing, List.getElem?_drop, Nat.add_sub_cancel' (Nat.le_of_lt inside)]
    have near : text.length - i = 1 ∨ text.length - i = 2 := by omega
    rw [ahead]
    rcases near with one | two
    · rw [one]
      rfl
    · rw [two]
      rfl
  rw [List.getElem?_append_right (Nat.le_refl _), Nat.sub_self, ← List.head?_eq_getElem?]
    at border
  exact head border

end Apart

/-! ## One character -/

/-- A character is read into a token and leaves no backslash pending, unless it is a backslash
with none pending before it: this one is read into nothing, and is pending itself. -/
theorem Cursor.read_cases (s : Cursor) (c : Char) (ahead : List Char) :
    (s.escaping = false ∧ c = '\\' ∧ s.read c ahead = (none, ⟨true, s.depth⟩)) ∨
      ∃ token depth, s.read c ahead = (some token, ⟨false, depth⟩) := by
  rcases s with ⟨escaping, depth⟩
  unfold Cursor.read
  split
  · exact .inr ⟨.cross, depth, rfl⟩
  · cases escaping with
    | true => exact .inr ⟨.lit c, depth, rfl⟩
    | false =>
      rw [if_neg Bool.false_ne_true]
      split
      · exact .inr ⟨.star, depth, rfl⟩
      · exact .inr ⟨.one, depth, rfl⟩
      · exact .inl ⟨rfl, rfl, rfl⟩
      · exact .inr ⟨.opening, depth + 1, rfl⟩
      · -- A brace closes a group only if one is open.
        cases depth with
        | zero => exact .inr ⟨.lit '}', 0, rfl⟩
        | succ depth => exact .inr ⟨.closing, depth, rfl⟩
      · exact .inr ⟨_, depth, rfl⟩
      · exact .inr ⟨.lit _, depth, rfl⟩

/-! ## One text behind another -/

/-- All that a cursor sees of the text ahead is whether a colon stands before two stars. -/
theorem Cursor.read_congr (s : Cursor) {c : Char} {ahead other : List Char}
    (same : c = ':' → startsWithStars ahead = startsWithStars other) :
    s.read c ahead = s.read c other := by
  have crossing : (c = ':' ∧ startsWithStars ahead = true) ↔
      (c = ':' ∧ startsWithStars other = true) :=
    and_congr_right fun colon => by rw [same colon]
  unfold Cursor.read
  rw [if_congr crossing rfl rfl]

theorem startsWithStars_append {text rest : List Char} (apart : Apart (':' :: text) rest) :
    startsWithStars (text ++ rest) = startsWithStars text := by
  rw [Bool.eq_iff_iff, Reading.startsWithStars_iff, Reading.startsWithStars_iff]
  constructor
  · intro stars
    have crossing : CrossingAt (':' :: text ++ rest) 0 := List.cons_prefix_cons.mpr ⟨rfl, stars⟩
    have inside := apart 0 (Nat.succ_pos _) crossing
    have enough : ['*', '*'].length ≤ text.length := Nat.le_of_succ_le_succ inside
    exact List.prefix_of_prefix_length_le stars (List.prefix_append text rest) enough
  · exact fun stars => stars.trans (List.prefix_append text rest)

/-- Two texts that are apart are scanned one after the other. -/
theorem scan_append {text rest : List Char} (apart : Apart text rest) (s : Cursor) :
    scan s (text ++ rest) =
      ((scan s text).1 ++ (scan (scan s text).2 rest).1, (scan (scan s text).2 rest).2) := by
  induction text generalizing s with
  | nil => rfl
  | cons c text ih =>
    have read : s.read c (text ++ rest) = s.read c text := by
      apply Cursor.read_congr
      rintro rfl
      exact startsWithStars_append apart
    rcases step : s.read c text with ⟨token, next⟩
    rw [List.cons_append, Reading.scan_cons_of_read (read.trans step),
      Reading.scan_cons_of_read step, ih apart.of_cons, List.append_assoc]

/-! ## Texts that leave the groups around them alone -/

/-- The same cursor with more groups open around it. -/
def Cursor.under (around : Nat) (s : Cursor) : Cursor :=
  ⟨s.escaping, s.depth + around⟩

/-- Whether a character divides or closes the group that a cursor stands in. -/
def Cursor.Ends (s : Cursor) (c : Char) : Prop :=
  s.escaping = false ∧ (c = ',' ∨ c = '}')

/-- Groups around a cursor matter only where the cursor is in no group of its own, and a
character divides or closes one. -/
theorem Cursor.read_under {s : Cursor} {c : Char} (inside : s.Ends c → s.depth ≠ 0)
    (around : Nat) (ahead : List Char) :
    (s.under around).read c ahead =
      ((s.read c ahead).1, (s.read c ahead).2.under around) := by
  rcases s with ⟨escaping, depth⟩
  have lifted : Cursor.under around ⟨escaping, depth⟩ = ⟨escaping, depth + around⟩ := rfl
  rw [lifted]
  unfold Cursor.read
  by_cases crossing : c = ':' ∧ startsWithStars ahead = true
  · rw [if_pos crossing, if_pos crossing]
    rfl
  · rw [if_neg crossing, if_neg crossing]
    cases escaping with
    | true => rfl
    | false =>
      rw [if_neg Bool.false_ne_true, if_neg Bool.false_ne_true]
      split
      · rfl
      · rfl
      · rfl
      · exact congrArg (some Token.opening, Cursor.mk false ·) (Nat.add_right_comm ..)
      · obtain ⟨depth, rfl⟩ := Nat.exists_eq_succ_of_ne_zero (inside ⟨rfl, .inr rfl⟩)
        rw [Nat.succ_add]
        rfl
      · have own : depth ≠ 0 := inside ⟨rfl, .inl rfl⟩
        have all : depth + around ≠ 0 := by omega
        rw [if_neg own, if_neg all]
        rfl
      · rfl

/-- A text that begins at a cursor leaves the groups around it alone: it divides and closes
only groups that it has opened, closes all of these, and does not end behind a pending
backslash. -/
def SelfContained (s : Cursor) : List Char → Prop
  | [] => s = .start
  | c :: text => (s.Ends c → s.depth ≠ 0) ∧ SelfContained (s.read c text).2 text

instance (s : Cursor) (c : Char) : Decidable (s.Ends c) :=
  inferInstanceAs (Decidable (_ ∧ _))

instance SelfContained.decidable (s : Cursor) : (text : List Char) →
    Decidable (SelfContained s text)
  | [] => inferInstanceAs (Decidable (s = .start))
  | c :: text =>
    have := decidable (s.read c text).2 text
    inferInstanceAs (Decidable (_ ∧ _))

/-- Such a text is scanned into the same tokens with more groups open around it, and these
groups are still open at its end. -/
theorem scan_under {s : Cursor} {text : List Char} (contained : SelfContained s text)
    (around : Nat) :
    scan (s.under around) text = ((scan s text).1, ⟨false, around⟩) ∧
      (scan s text).2 = .start := by
  induction text generalizing s with
  | nil =>
    obtain rfl : s = .start := contained
    exact ⟨congrArg (fun depth => ([], Cursor.mk false depth)) (Nat.zero_add around), rfl⟩
  | cons c text ih =>
    obtain ⟨inside, later⟩ := contained
    have under := Cursor.read_under inside around text
    rcases step : s.read c text with ⟨token, next⟩
    rw [step] at later under
    obtain ⟨rest, ended⟩ := ih later
    rw [Reading.scan_cons_of_read under, Reading.scan_cons_of_read step, rest]
    exact ⟨rfl, ended⟩

/-- A text that leaves the groups around it alone is scanned into its own items. -/
theorem scan_of_selfContained {text : List Char} (contained : SelfContained .start text)
    (around : Nat) :
    scan ⟨false, around⟩ text = (Item.sequenceTokens (items text), ⟨false, around⟩) := by
  obtain ⟨under, ended⟩ := scan_under contained around
  have lifted : Cursor.under around .start = ⟨false, around⟩ :=
    congrArg (Cursor.mk false) (Nat.zero_add around)
  have closed : (scan .start text).2.depth = 0 := by
    rw [ended]
    rfl
  rw [lifted] at under
  rw [under, scan_start_of_closed closed]

end Arbiter.Glob
