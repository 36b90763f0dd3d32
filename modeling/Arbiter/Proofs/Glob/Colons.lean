import Arbiter.Proofs.Glob.Cut

/-!
# Colons in what a glob accepts

A crossing and a lone star are all that can account for a colon which the glob does not
spell out. Without them, each colon of an accepted text is one of the glob's own, and no
colon of the glob is used twice.

* `AtMostColons`: a bound on the colons of a language's texts.
* `Texts.read_atMostColons` and `Texts.foldl_read_atMostColons`: reading a token raises the
  bound by one if the token is a colon, and else leaves it, in all groups that are open.
* `scan_colons`: a scan of a text without a crossing finds the colons of the text.
* `Pattern.colons_le_of_accepts`: a glob without a crossing accepts no text with more colons.
-/

namespace Arbiter.Glob

/-! ## Languages -/

/-- No text of the language has more colons than this. -/
def AtMostColons (bound : Nat) (l : Language Char) : Prop :=
  ∀ w ∈ l, w.count ':' ≤ bound

namespace AtMostColons

variable {bound more : Nat} {l k : Language Char}

theorem zero (bound : Nat) : AtMostColons bound 0 :=
  fun w member => absurd member (Language.notMem_zero w)

theorem one : AtMostColons 0 1 := by
  intro w member
  rw [Language.mem_one] at member
  rw [member]
  exact Nat.le_refl 0

theorem mono (within : AtMostColons bound l) (raised : bound ≤ more) : AtMostColons more l :=
  fun w member => Nat.le_trans (within w member) raised

theorem add (left : AtMostColons bound l) (right : AtMostColons bound k) :
    AtMostColons bound (l + k) := by
  intro w member
  rcases (Language.mem_add l k w).mp member with inLeft | inRight
  · exact left w inLeft
  · exact right w inRight

theorem mul (left : AtMostColons bound l) (right : AtMostColons more k) :
    AtMostColons (bound + more) (l * k) := by
  intro w member
  obtain ⟨u, inLeft, v, inRight, rfl⟩ := Language.mem_mul.mp member
  rw [List.count_append]
  exact Nat.add_le_add (left u inLeft) (right v inRight)

/-- Texts of characters that stay within a segment have no colon at all. -/
theorem of_inSegment (inside : ∀ w ∈ l, ∀ c ∈ w, inSegment c = true) : AtMostColons 0 l := by
  intro w member
  have free : ':' ∉ w := fun colon => absurd (inside w member ':' colon) (by decide)
  rw [List.count_eq_zero_of_not_mem free]

end AtMostColons

theorem Token.count_lit (c : Char) : [lit c].count (lit ':') = [c].count ':' :=
  List.count_map_of_injective [c] lit (fun _ _ same => lit.inj same) ':'

/-- A token other than a crossing stands for no more colons than it is: one for a literal
colon, and none for anything else. -/
theorem Token.atMostColons_texts {token : Token} (bounded : token ≠ .cross) :
    AtMostColons ([token].count (.lit ':')) token.texts := by
  cases token with
  | lit c =>
    intro w member
    have text : w = [c] := member
    rw [text, Token.count_lit]
  | one =>
    apply AtMostColons.of_inSegment
    rintro w ⟨d, inside, rfl⟩ c member
    rw [List.mem_singleton.mp member]
    exact inside
  | star => exact AtMostColons.of_inSegment fun w inside => inside
  | cross => exact absurd rfl bounded
  | opening => exact AtMostColons.one
  | bar => exact AtMostColons.one
  | closing => exact AtMostColons.one

/-! ## Reading on -/

/-- No text that has been read has more colons than this, in the groups that are open
either. -/
structure Texts.AtMostColons (bound : Nat) (t : Texts) : Prop where
  here : Glob.AtMostColons bound t.1
  before : ∀ g ∈ t.2, Glob.AtMostColons bound g.before
  reached : ∀ g ∈ t.2, Glob.AtMostColons bound g.reached

namespace Texts

theorem AtMostColons.mono {t : Texts} {bound more : Nat} (within : t.AtMostColons bound)
    (raised : bound ≤ more) : t.AtMostColons more where
  here := within.here.mono raised
  before g member := (within.before g member).mono raised
  reached g member := (within.reached g member).mono raised

/-- Reading one token raises the bound by the colons of the token. -/
theorem read_atMostColons {t : Texts} {bound : Nat} (within : t.AtMostColons bound)
    {token : Token} (bounded : token ≠ .cross) :
    (t.read token).AtMostColons (bound + [token].count (.lit ':')) := by
  have kept := within.mono (Nat.le_add_right bound ([token].count (.lit ':')))
  have appended := within.here.mul (Token.atMostColons_texts bounded)
  rcases t with ⟨l, groups⟩
  cases token with
  | opening =>
    exact ⟨kept.here, List.forall_mem_cons.mpr ⟨kept.here, kept.before⟩,
      List.forall_mem_cons.mpr ⟨.zero _, kept.reached⟩⟩
  | bar =>
    rcases groups with _ | ⟨g, groups⟩
    · exact ⟨appended, nofun, nofun⟩
    · obtain ⟨before, outer⟩ := List.forall_mem_cons.mp kept.before
      obtain ⟨reached, beyond⟩ := List.forall_mem_cons.mp kept.reached
      exact ⟨before, List.forall_mem_cons.mpr ⟨before, outer⟩,
        List.forall_mem_cons.mpr ⟨reached.add kept.here, beyond⟩⟩
  | closing =>
    rcases groups with _ | ⟨g, groups⟩
    · exact ⟨appended, nofun, nofun⟩
    · obtain ⟨before, outer⟩ := List.forall_mem_cons.mp kept.before
      obtain ⟨reached, beyond⟩ := List.forall_mem_cons.mp kept.reached
      exact ⟨reached.add kept.here, outer, beyond⟩
  | cross => exact absurd rfl bounded
  | lit c => exact ⟨appended, kept.before, kept.reached⟩
  | one => exact ⟨appended, kept.before, kept.reached⟩
  | star => exact ⟨appended, kept.before, kept.reached⟩

theorem foldl_read_atMostColons {t : Texts} {bound : Nat} (within : t.AtMostColons bound)
    {tokens : List Token} (bounded : .cross ∉ tokens) :
    (tokens.foldl read t).AtMostColons (bound + tokens.count (.lit ':')) := by
  induction tokens generalizing t bound with
  | nil => exact within
  | cons token tokens ih =>
    rw [List.mem_cons, not_or] at bounded
    have next := ih (read_atMostColons within (Ne.symm bounded.1)) bounded.2
    have total : bound + [token].count (.lit ':') + tokens.count (.lit ':') =
        bound + (token :: tokens).count (.lit ':') := by
      rw [Nat.add_assoc, ← List.count_append, List.singleton_append]
    rw [total] at next
    exact next

end Texts

/-- A text that tokens without a crossing account for has at most the colons among them. -/
theorem count_colon_le_of_mem_language {tokens : List Token} (bounded : .cross ∉ tokens)
    {w : List Char} (member : w ∈ language tokens) :
    w.count ':' ≤ tokens.count (.lit ':') := by
  have begin : Texts.AtMostColons 0 (1, []) := ⟨.one, nofun, nofun⟩
  have read := Texts.foldl_read_atMostColons begin bounded
  rw [Nat.zero_add] at read
  exact read.here w member

/-! ## Scanning -/

/-- Where no crossing begins, a colon is read as itself, and nothing else is read as a
colon. -/
theorem Cursor.read_colons (s : Cursor) {c : Char} {ahead : List Char}
    (bounded : ¬ (c = ':' ∧ startsWithStars ahead = true)) :
    .cross ∉ (s.read c ahead).1.toList ∧
      (s.read c ahead).1.toList.count (.lit ':') = [c].count ':' := by
  rcases s with ⟨escaping, depth⟩
  unfold Cursor.read
  rw [if_neg bounded]
  cases escaping with
  | true => exact ⟨by simp, Token.count_lit c⟩
  | false =>
    rw [if_neg Bool.false_ne_true]
    split
    · exact ⟨by simp, rfl⟩
    · exact ⟨by simp, rfl⟩
    · exact ⟨by simp, rfl⟩
    · exact ⟨by simp, rfl⟩
    · cases depth with
      | zero => exact ⟨by simp, rfl⟩
      | succ depth => exact ⟨by simp, rfl⟩
    · by_cases outside : depth = 0
      · rw [if_pos outside]
        exact ⟨by simp, rfl⟩
      · rw [if_neg outside]
        exact ⟨by simp, rfl⟩
    · exact ⟨by simp, Token.count_lit c⟩

/-- A scan of a text without a crossing finds the colons of the text. -/
theorem scan_colons {text : List Char} (bounded : ¬ [':', '*', '*'] <:+: text) (s : Cursor) :
    .cross ∉ (scan s text).1 ∧ (scan s text).1.count (.lit ':') = text.count ':' := by
  induction text generalizing s with
  | nil => exact ⟨nofun, rfl⟩
  | cons c text ih =>
    obtain ⟨here, later⟩ := bounded_of_cons bounded
    obtain ⟨single, colons⟩ := s.read_colons here
    rcases step : s.read c text with ⟨token, next⟩
    rw [step] at single colons
    obtain ⟨rest, count⟩ := ih later next
    rw [Reading.scan_cons_of_read step]
    constructor
    · rw [List.mem_append, not_or]
      exact ⟨single, rest⟩
    · rw [List.count_append, colons, count, ← List.count_append, List.singleton_append]

/-- A text that the items of a glob without a crossing stand for has at most the colons of the
glob. -/
theorem count_colon_le_of_mem_items {glob : List Char} (bounded : ¬ [':', '*', '*'] <:+: glob)
    {w : List Char} (member : w ∈ Item.sequenceLanguage (items glob)) :
    w.count ':' ≤ glob.count ':' := by
  obtain ⟨single, count⟩ := scan_colons bounded .start
  rw [← Item.language_sequenceTokens, ← scan_start_closed] at member
  have no_cross : .cross ∉ (scan .start glob).1 ++
      List.replicate (scan .start glob).2.depth .closing := by
    rw [List.mem_append, not_or]
    refine ⟨single, fun closing => ?_⟩
    cases List.eq_of_mem_replicate closing
  have within := count_colon_le_of_mem_language no_cross member
  rw [List.count_append, count, List.count_replicate] at within
  exact within

end Arbiter.Glob

namespace Arbiter.Pattern

open Glob

/-- **Only a crossing reaches into further segments.** A glob without a crossing, other than
a lone star, accepts no text with more colons than the glob has, and so none with more
segments, however its groups are nested or left open, and also if it is refused. -/
theorem colons_le_of_accepts [SizeLimit] {glob candidate : String} (several : glob ≠ "*")
    (bounded : ¬ [':', '*', '*'] <:+: glob.toList)
    (accepted : (compile glob).accepts candidate = true) :
    candidate.toList.count ':' ≤ glob.toList.count ':' ∧
      (segments candidate).length ≤ (segments glob).length := by
  have colons : candidate.toList.count ':' ≤ glob.toList.count ':' := by
    by_cases refused : Refused (tokens glob.toList)
    · rw [accepts, compile, if_pos refused] at accepted
      have same : glob = candidate := eq_of_beq accepted
      rw [same]
    · have list : glob.toList ≠ ['*'] := fun lone => several (String.toList_inj.mp lone)
      rw [accepts_compile_iff_mem_language refused, language_tokens list] at accepted
      exact count_colon_le_of_mem_items bounded accepted
  rw [length_segments, length_segments]
  exact ⟨colons, Nat.succ_le_succ colons⟩

/-- Two groups that are left open, an escaped brace, and a wildcard behind a colon. -/
theorem colons_le_of_open_groups :
    (compile "a:\x7bb:?,\x7bc\\\x7b:*").accepts "a:c\x7b:" = true ∧
      "a:c\x7b:".toList.count ':' ≤ "a:\x7bb:?,\x7bc\\\x7b:*".toList.count ':' :=
  have accepted : (compile "a:\x7bb:?,\x7bc\\\x7b:*").accepts "a:c\x7b:" = true := by decide
  ⟨accepted, (colons_le_of_accepts (by decide) (by decide) accepted).1⟩

end Arbiter.Pattern
