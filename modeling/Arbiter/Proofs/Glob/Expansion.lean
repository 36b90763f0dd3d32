import Arbiter.Proofs.Glob.Size

/-!
# Brace expansion

A group in a glob stands for its alternatives: the glob accepts what some alternative
accepts in the place of the group. The text around the group may leave groups open, so this
is a property of reading on from there, and not of the group alone.

* `Texts.foldl_read_add`: reading on from a union reads on from each of its parts.
* `Item.mem_language_group_iff`: a group among any tokens is a union over its alternatives.
* `scan_alternatives`: alternatives in braces are scanned into one group.
* `Pattern.accepts_braced_iff`: a glob with alternatives in braces accepts what one of the
  globs accepts that have a single alternative in their place.
-/

namespace Arbiter.Glob

/-! ## Reading on from a union -/

namespace Texts

/-- What has been read in one of two ways, with the same groups open. -/
def union (s t : Texts) : Texts :=
  (s.1 + t.1, List.zipWith (fun g h => ⟨g.before + h.before, g.reached + h.reached⟩) s.2 t.2)

theorem union_same_groups (l k : Language Char) (groups : List OpenTexts) :
    union (l, groups) (k, groups) = (l + k, groups) := by
  rw [union, List.zipWith_self]
  simp only [Language.add_self, List.map_id']

/-- A token is read in both ways alike. -/
theorem read_union {s t : Texts} (level : s.2.length = t.2.length) (token : Token) :
    (s.union t).read token = (s.read token).union (t.read token) ∧
      (s.read token).2.length = (t.read token).2.length := by
  rcases s with ⟨l, _ | ⟨g, groups⟩⟩ <;> rcases t with ⟨k, _ | ⟨h, others⟩⟩
  · cases token with
    | opening => exact ⟨congrArg (fun reached => (l + k, [OpenTexts.mk (l + k) reached]))
        (add_zero 0).symm, rfl⟩
    | _ => exact ⟨congrArg (·, []) (add_mul ..), rfl⟩
  · exact absurd level (Nat.succ_ne_zero _).symm
  · exact absurd level (Nat.succ_ne_zero _)
  · cases token with
    | opening => exact ⟨congrArg (fun reached => (l + k, OpenTexts.mk (l + k) reached :: _))
        (add_zero 0).symm, congrArg Nat.succ level⟩
    | bar => exact ⟨congrArg (fun reached => (_, OpenTexts.mk _ reached :: _))
        (add_add_add_comm ..), level⟩
    | closing => exact ⟨congrArg (·, _) (add_add_add_comm ..), Nat.succ.inj level⟩
    | _ => exact ⟨congrArg (·, _) (add_mul ..), level⟩

theorem foldl_read_union {s t : Texts} (level : s.2.length = t.2.length)
    (tokens : List Token) :
    tokens.foldl read (s.union t) = (tokens.foldl read s).union (tokens.foldl read t) := by
  induction tokens generalizing s t with
  | nil => rfl
  | cons token tokens ih =>
    obtain ⟨both, next⟩ := read_union level token
    rw [List.foldl_cons, both, ih next, List.foldl_cons, List.foldl_cons]

/-- Reading on from a union reads on from each of its parts. -/
theorem foldl_read_add (l k : Language Char) (groups : List OpenTexts) (tokens : List Token) :
    (tokens.foldl read (l + k, groups)).1 =
      (tokens.foldl read (l, groups)).1 + (tokens.foldl read (k, groups)).1 := by
  have level : Prod.snd (l, groups) = Prod.snd (k, groups) := rfl
  rw [← union_same_groups, foldl_read_union (congrArg List.length level), union]

/-- Reading on from a group reads on from one of its alternatives. -/
theorem mem_foldl_read_group {others : List (List Item)} {last : List Item}
    {l : Language Char} {groups : List OpenTexts} {tokens : List Token} {w : List Char} :
    w ∈ (tokens.foldl read (l * (Item.group others last).language, groups)).1 ↔
      ∃ alternative ∈ others ++ [last],
        w ∈ (tokens.foldl read (l * Item.sequenceLanguage alternative, groups)).1 := by
  induction others with
  | nil =>
    rw [Item.language, Item.unionLanguage, zero_add, List.nil_append]
    simp only [List.mem_singleton, exists_eq_left]
  | cons other others ih =>
    rw [Item.language] at ih
    rw [Item.language, Item.unionLanguage, add_assoc, mul_add, foldl_read_add,
      Language.mem_add, ih, List.cons_append]
    simp only [List.mem_cons, exists_eq_or_imp]

end Texts

/-- A group among any tokens accounts for the texts that one of its alternatives accounts for
in its place. -/
theorem Item.mem_language_group_iff {others : List (List Item)} {last : List Item}
    {before after : List Token} {w : List Char} :
    w ∈ Glob.language (before ++ (group others last).tokens ++ after) ↔
      ∃ alternative ∈ others ++ [last],
        w ∈ Glob.language (before ++ sequenceTokens alternative ++ after) := by
  simp only [Glob.language, List.foldl_append]
  generalize before.foldl Texts.read (1, []) = state
  obtain ⟨l, groups⟩ := state
  simp only [read_tokens, read_sequenceTokens]
  exact Texts.mem_foldl_read_group

/-! ## Scanning alternatives in braces -/

/-- Inside of a group, alternatives that leave the groups around them alone are scanned one
after another, up to the brace that closes the group. -/
theorem scan_alternatives {alternatives : List (List Char)} (nonempty : alternatives ≠ [])
    (contained : ∀ a ∈ alternatives, SelfContained .start a) (around : Nat)
    (after : List Char) :
    ∃ others last, others ++ [last] = alternatives.map items ∧
      scan ⟨false, around + 1⟩ ([','].intercalate alternatives ++ '}' :: after) =
        (Item.branchTokens others ++ (Item.sequenceTokens last ++
          .closing :: (scan ⟨false, around⟩ after).1), (scan ⟨false, around⟩ after).2) := by
  induction alternatives with
  | nil => exact absurd rfl nonempty
  | cons a rest ih =>
    have first := scan_of_selfContained (contained a List.mem_cons_self) (around + 1)
    rcases rest with _ | ⟨b, rest⟩
    · have apart : Apart a ('}' :: after) := .of_head_ne (by simp) a
      have closing : Cursor.read ⟨false, around + 1⟩ '}' after =
        (some .closing, ⟨false, around⟩) := rfl
      refine ⟨[], items a, rfl, ?_⟩
      rw [List.intercalate_singleton, scan_append apart, first,
        Reading.scan_cons_of_read closing]
      rfl
    · have apart : Apart a (',' :: ([','].intercalate (b :: rest) ++ '}' :: after)) :=
        .of_head_ne (by simp) a
      have bar : Cursor.read ⟨false, around + 1⟩ ','
          ([','].intercalate (b :: rest) ++ '}' :: after) =
        (some .bar, ⟨false, around + 1⟩) := rfl
      obtain ⟨others, last, split, inside⟩ := ih (List.cons_ne_nil b rest)
        fun c member => contained c (List.mem_cons_of_mem a member)
      refine ⟨items a :: others, last, congrArg (items a :: ·) split, ?_⟩
      rw [List.intercalate_cons_cons, List.append_assoc, List.append_assoc,
        List.singleton_append, scan_append apart, first, Reading.scan_cons_of_read bar, inside,
        Item.branchTokens, List.append_assoc]
      rfl

/-- Every crossing in a text of three parts stands within one of them. -/
def CrossingsWithin (p a q : List Char) : Prop :=
  ∀ i < (p ++ a ++ q).length, CrossingAt (p ++ a ++ q) i →
    i + 3 ≤ p.length ∨
      (p.length ≤ i ∧ i + 3 ≤ p.length + a.length) ∨ p.length + a.length ≤ i

instance (p a q : List Char) : Decidable (CrossingsWithin p a q) :=
  inferInstanceAs (Decidable (∀ i < (p ++ a ++ q).length, _))

namespace CrossingsWithin

theorem alone (a : List Char) : CrossingsWithin [] a [] := by
  intro i _ crossing
  have fits := crossing.length_le
  rw [List.nil_append, List.append_nil, List.length_drop] at fits
  have three : [':', '*', '*'].length = 3 := rfl
  refine .inr (.inl ⟨Nat.zero_le i, ?_⟩)
  rw [List.length_nil]
  omega

variable {p a q : List Char} (within : CrossingsWithin p a q)

include within

theorem apart_left : Apart p (a ++ q) := by
  intro i inside crossing
  rw [← List.append_assoc] at crossing
  have whole : i < (p ++ a ++ q).length := by
    rw [List.length_append, List.length_append]
    omega
  rcases within i whole crossing with here | ⟨beyond, -⟩ | beyond <;> omega

theorem apart_right : Apart a q := by
  intro i inside crossing
  have shifted : CrossingAt (p ++ a ++ q) (p.length + i) := by
    rw [CrossingAt, List.append_assoc, List.drop_append, List.drop_eq_nil_of_le (by omega),
      Nat.add_sub_cancel_left]
    exact crossing
  have whole : p.length + i < (p ++ a ++ q).length := by
    rw [List.length_append, List.length_append]
    omega
  rcases within _ whole shifted with before | ⟨-, here⟩ | beyond <;> omega

end CrossingsWithin

/-- The tokens of the end of a glob, from where so many groups are open. They are closed
behind it, and so are its own. -/
def endTokens (around : Nat) (q : List Char) : List Token :=
  (scan ⟨false, around⟩ q).1 ++ List.replicate (scan ⟨false, around⟩ q).2.depth .closing

/-- The tokens of a glob that is scanned in three parts. -/
theorem tokens_of_scan {p middle q : List Char} {inner : List Token}
    (settled : (scan .start p).2.escaping = false) (apart : Apart p (middle ++ q))
    (several : p ++ middle ++ q ≠ ['*'])
    (between : scan (scan .start p).2 (middle ++ q) =
      (inner ++ (scan (scan .start p).2 q).1, (scan (scan .start p).2 q).2)) :
    tokens (p ++ middle ++ q) =
      (scan .start p).1 ++ inner ++ endTokens (scan .start p).2.depth q := by
  rw [tokens_of_several several, List.append_assoc, scan_append apart, between, endTokens]
  generalize scan .start p = before at settled
  obtain ⟨tokens, escaping, depth⟩ := before
  subst settled
  simp only [List.append_assoc]

/-- A glob with alternatives in braces. -/
def bracedChars (alternatives : List (List Char)) : List Char :=
  '{' :: ([','].intercalate alternatives ++ ['}'])

/-- A glob with alternatives in braces has the tokens of a group there, and a glob with one
alternative in their place the tokens of this alternative. -/
theorem tokens_braced {p q : List Char} {alternatives : List (List Char)}
    (nonempty : alternatives ≠ []) (settled : (scan .start p).2.escaping = false)
    (contained : ∀ a ∈ alternatives, SelfContained .start a)
    (several : ∀ a ∈ alternatives, p ++ a ++ q ≠ ['*'])
    (within : ∀ a ∈ alternatives, CrossingsWithin p a q) :
    ∃ before others last after, others ++ [last] = alternatives.map items ∧
      tokens (p ++ bracedChars alternatives ++ q) =
        before ++ (Item.group others last).tokens ++ after ∧
      ∀ a ∈ alternatives,
        tokens (p ++ a ++ q) = before ++ Item.sequenceTokens (items a) ++ after := by
  have cursor : (scan .start p).2 = ⟨false, (scan .start p).2.depth⟩ := by
    rw [← settled]
  obtain ⟨others, last, split, inside⟩ :=
    scan_alternatives nonempty contained (scan .start p).2.depth q
  refine ⟨(scan .start p).1, others, last, endTokens (scan .start p).2.depth q, split, ?_, ?_⟩
  · have apart : Apart p (bracedChars alternatives ++ q) := .of_head_ne (by simp [bracedChars]) p
    have several : p ++ bracedChars alternatives ++ q ≠ ['*'] := by
      intro lone
      have brace : '{' ∈ p ++ bracedChars alternatives ++ q := by simp [bracedChars]
      rw [lone] at brace
      exact absurd brace (by decide)
    have text : bracedChars alternatives ++ q =
        '{' :: ([','].intercalate alternatives ++ '}' :: q) := by
      simp [bracedChars]
    have opening : Cursor.read (scan .start p).2 '{'
        ([','].intercalate alternatives ++ '}' :: q) =
      (some .opening, ⟨false, (scan .start p).2.depth + 1⟩) := by
      rw [cursor]
      rfl
    apply tokens_of_scan settled apart several
    rw [text, Reading.scan_cons_of_read opening, inside, ← cursor, Item.tokens]
    simp only [Option.toList_some, List.cons_append, List.nil_append, List.append_assoc]
  · intro a member
    apply tokens_of_scan settled (within a member).apart_left (several a member)
    rw [scan_append (within a member).apart_right, cursor,
      scan_of_selfContained (contained a member)]

/-! ## A short alternative beside a long one -/

/-- A glob that is nothing but alternatives in braces has the tokens of a group. -/
theorem tokens_bracedChars {alternatives : List (List Char)} (nonempty : alternatives ≠ [])
    (contained : ∀ a ∈ alternatives, SelfContained .start a) :
    ∃ others last, others ++ [last] = alternatives.map items ∧
      tokens (bracedChars alternatives) = Item.sequenceTokens [.group others last] := by
  obtain ⟨others, last, split, inside⟩ := scan_alternatives nonempty contained 0 []
  have opening : Cursor.start.read '{' ([','].intercalate alternatives ++ ['}']) =
    (some .opening, ⟨false, 1⟩) := rfl
  have several : bracedChars alternatives ≠ ['*'] :=
    fun lone => absurd (List.cons.inj lone).1 (by decide)
  refine ⟨others, last, split, ?_⟩
  rw [tokens_of_several several, bracedChars, Reading.scan_cons_of_read opening, inside]
  simp [Item.sequenceTokens, Item.tokens, scan]

section

variable {text : List Char} (simple : Simple text)

include simple

theorem tokens_beside :
    tokens (bracedChars [['a'], text]) =
      Item.sequenceTokens [.group [[.lit 'a']] (items text)] := by
  have contained : ∀ a ∈ [['a'], text], SelfContained .start a := by
    intro a member
    rcases List.mem_pair.mp member with rfl | rfl
    · decide
    · exact selfContained_simple simple
  obtain ⟨others, last, split, read⟩ :=
    tokens_bracedChars (List.cons_ne_nil ['a'] [text]) contained
  have parts : others ++ [last] = [[.lit 'a']] ++ [items text] := split
  obtain ⟨rfl, same⟩ := List.append_inj' parts rfl
  rw [read, (List.cons.inj same).1]

theorem depth_beside_le : depth (tokens (bracedChars [['a'], text])) ≤ depthLimit := by
  have shallow := deepest_le_of_flat (flat_of_simple simple)
  have inner : joinedDepth (items text).length (Item.deepest (items text)) ≤ 3 :=
    Nat.le_trans (joinedDepth_le_succ ..) (Nat.succ_le_succ shallow)
  have short : Item.deepestAlternative [[.lit 'a']] = 0 := by decide
  have group : (Item.group [[.lit 'a']] (items text)).depth ≤ 5 := by
    rw [Item.depth, short, Nat.zero_max]
    exact Nat.succ_le_succ (Nat.le_trans (joinedDepth_le_succ ..) (Nat.succ_le_succ inner))
  rw [tokens_beside simple, Item.depth_sequenceTokens_le_iff, Item.deepest, Item.deepest,
    Nat.max_zero]
  exact Nat.lt_of_le_of_lt group (by decide)

theorem estimatedSize_le_beside :
    estimatedSize (tokens text) ≤ estimatedSize (tokens (bracedChars [['a'], text])) := by
  rw [tokens_beside simple, tokens_eq_sequenceTokens (ne_lone_star_of_simple simple)]
  simp only [Item.sequenceTokens, Item.tokens, Item.branchTokens, estimatedSize_append,
    estimatedSize]
  omega

end

end Arbiter.Glob

namespace Arbiter.Pattern

open Glob

/-- A glob with alternatives in braces, between two texts. -/
def braced (p : String) (alternatives : List String) (q : String) : String :=
  p ++ "\x7b" ++ ",".intercalate alternatives ++ "\x7d" ++ q

theorem toList_braced (p : String) (alternatives : List String) (q : String) :
    (braced p alternatives q).toList =
      p.toList ++ bracedChars (alternatives.map String.toList) ++ q.toList := by
  simp [braced, bracedChars, String.toList_intercalate]

/-- **Brace expansion.** A glob with alternatives in braces accepts what one of the globs
accepts that have a single alternative in their place, if none of them is refused. With a single
alternative a glob is not nested deeper, but its program may be larger: the braces of `{?,:}`
stand for any character, which takes less than `?`. The alternatives leave the groups around
them alone, and the text before them does not end behind a pending backslash. It may leave
groups open, closed behind the alternatives or not. -/
theorem accepts_braced_iff [SizeLimit] {p q : String} {alternatives : List String}
    (nonempty : alternatives ≠ [])
    (settled : (scan .start p.toList).2.escaping = false)
    (contained : ∀ a ∈ alternatives, SelfContained .start a.toList)
    (several : ∀ a ∈ alternatives, p ++ a ++ q ≠ "*")
    (within : ∀ a ∈ alternatives, CrossingsWithin p.toList a.toList q.toList)
    (readable : ¬ Refused (tokens (braced p alternatives q).toList))
    (small : ∀ a ∈ alternatives, fits (tokens (p ++ a ++ q).toList)) (candidate : String) :
    (compile (braced p alternatives q)).accepts candidate = true ↔
      ∃ a ∈ alternatives, (compile (p ++ a ++ q)).accepts candidate = true := by
  have lone : ∀ a ∈ alternatives, p.toList ++ a.toList ++ q.toList ≠ "*".toList := by
    intro a member same
    apply several a member
    rw [← String.toList_inj, String.toList_append, String.toList_append, same]
  obtain ⟨before, others, last, after, split, whole, single⟩ := tokens_braced
    (mt List.map_eq_nil_iff.mp nonempty) settled (List.forall_mem_map.mpr contained)
    (List.forall_mem_map.mpr lone) (List.forall_mem_map.mpr within)
  rw [List.forall_mem_map] at single
  rw [← toList_braced] at whole
  rw [accepts_compile_iff_mem_language readable, whole, Item.mem_language_group_iff, split]
  simp only [List.mem_map, exists_exists_and_eq_and]
  apply exists_congr
  intro a
  apply and_congr_right
  intro member
  have text : tokens (p ++ a ++ q).toList =
      before ++ Item.sequenceTokens (items a.toList) ++ after := by
    rw [String.toList_append, String.toList_append, single a member]
  have listed : items a.toList ∈ others ++ [last] := by
    rw [split]
    exact List.mem_map_of_mem (List.mem_map_of_mem member)
  have shallow : depth (tokens (p ++ a ++ q).toList) ≤ depthLimit := by
    have group := (not_refused_iff.mp readable).1
    rw [whole] at group
    rw [text]
    exact Nat.le_trans (depth_alternative_le listed ..) group
  rw [accepts_compile_iff_mem_language (not_refused_iff.mpr ⟨shallow, small a member⟩), text]

/-- Alternatives inside of a group that is open before them and closed behind them: none at
all, one with a group of its own, and an escaped comma. -/
theorem accepts_braced_in_group :
    (compile (braced "x\x7by," ["", "a\x7bb,c\x7d", "\\,"] "\x7d:**")).accepts "xac7:1" =
      true :=
  (accepts_braced_iff (by decide) (by decide) (by decide) (by decide) (by decide) (by decide)
    (by decide) "xac7:1").mpr ⟨"a\x7bb,c\x7d", by decide, by decide⟩

/-- A simple text is an alternative that needs nothing around it. -/
theorem alternative_of_simple {a : String} (simple : Simple a.toList) :
    SelfContained .start a.toList ∧ "" ++ a ++ "" ≠ "*" ∧
      CrossingsWithin "".toList a.toList "".toList := by
  refine ⟨selfContained_simple simple, ?_, CrossingsWithin.alone a.toList⟩
  rw [String.empty_append, String.append_empty]
  exact ne_star_of_simple simple

/-- A short alternative beside forty thousand question marks. The glob is not nested too deeply,
but its program is too large. So it is compared as it stands, and does not accept what it
accepts with the short alternative alone. -/
theorem accepts_braced_beside_question_marks :
    let long := repeated '?' 40000
    (∀ a ∈ ["a", long], SelfContained .start a.toList ∧ "" ++ a ++ "" ≠ "*" ∧
        CrossingsWithin "".toList a.toList "".toList) ∧
      (scan .start "".toList).2.escaping = false ∧
      depth (tokens (braced "" ["a", long] "").toList) ≤ depthLimit ∧
      (compile ("" ++ "a" ++ "")).accepts "a" = true ∧
      (compile (braced "" ["a", long] "")).accepts "a" = false := by
  intro long
  have simple : Simple long.toList := simple_repeated (by decide) 40000
  have short : Simple "a".toList := by
    intro c member
    rw [List.mem_singleton.mp member]
    decide
  have large : sizeBound < estimatedSize (tokens long.toList) := by
    rw [estimatedSize_repeated (by decide)]
    decide
  have text : (braced "" ["a", long] "").toList = bracedChars [['a'], long.toList] := by
    rw [toList_braced]
    exact List.append_nil _
  have refused : Refused (tokens (braced "" ["a", long] "").toList) := by
    rw [text]
    exact refused_of_sizeBound_lt (Nat.lt_of_lt_of_le large (estimatedSize_le_beside simple))
  refine ⟨?_, rfl, ?_, by decide, accepts_eq_false_of_refused refused ?_⟩
  · intro a member
    rcases List.mem_pair.mp member with rfl | rfl
    · exact alternative_of_simple short
    · exact alternative_of_simple simple
  · rw [text]
    exact depth_beside_le simple
  · intro same
    rw [← String.toList_inj, text] at same
    exact absurd (List.cons.inj same).1 (by decide)

end Arbiter.Pattern
