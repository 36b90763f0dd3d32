import Arbiter.Proofs.Glob.Depth
import Arbiter.Proofs.Glob.Scan

/-!
# Cutting at colons

Colons divide a name into segments. In a glob, a colon outside of any group is also where
reading starts afresh: it ends a pending backslash, and what stands before it has no part in
how the text behind it is read.

* `segments`: the segments of a name.
* `segments_induction`: a text is one segment, or a segment with a colon and a text behind it.
* `tokens_cut`: a glob with a colon outside of any group has the items before the colon, one
  item for the colon, and the items behind it.
-/

namespace Arbiter.Glob

/-! ## Segments -/

/-- The segments of a name: the texts before, between and behind its colons. -/
def segments (name : String) : List String :=
  (name.toList.splitOn ':').map String.ofList

theorem segments_pair {first last : String} (free : ':' ∉ first.toList)
    (free' : ':' ∉ last.toList) : segments (first ++ ":" ++ last) = [first, last] := by
  have colon : ":".toList = [':'] := rfl
  rw [segments, String.toList_append, String.toList_append, colon, List.append_assoc,
    List.singleton_append, List.splitOn_append_cons_self_of_not_mem free,
    List.splitOn_eq_singleton free', List.map_cons, List.map_singleton, String.ofList_toList,
    String.ofList_toList]

/-- A text is a single segment, or a segment with a colon and a text behind it. -/
theorem segments_induction {motive : List Char → Prop}
    (segment : ∀ text, ':' ∉ text → motive text)
    (colon : ∀ first rest, ':' ∉ first → motive rest → motive (first ++ ':' :: rest))
    (text : List Char) : motive text := by
  by_cases divided : ':' ∈ text
  · obtain ⟨first, rest, cut, free⟩ := List.eq_append_cons_of_mem divided
    have shorter : rest.length < text.length := by
      rw [cut, List.length_append, List.length_cons]
      omega
    rw [cut]
    exact colon first rest free (segments_induction segment colon rest)
  · exact segment text divided
termination_by text.length

/-- A text has one segment more than it has colons. -/
theorem length_splitOn_colon (text : List Char) :
    (text.splitOn ':').length = text.count ':' + 1 := by
  induction text using segments_induction with
  | segment text free =>
    rw [List.splitOn_eq_singleton free, List.count_eq_zero_of_not_mem free]
    rfl
  | colon first rest free ih =>
    rw [List.splitOn_append_cons_self_of_not_mem free, List.length_cons, ih,
      List.count_append, List.count_eq_zero_of_not_mem free, List.count_cons_self,
      Nat.zero_add]

/-- A text is cut at its first colon in only one way. -/
theorem first_colon_unique {first first' rest rest' : List Char} (free : ':' ∉ first)
    (free' : ':' ∉ first') (same : first ++ ':' :: rest = first' ++ ':' :: rest') :
    first = first' ∧ rest = rest' := by
  have cuts := congrArg (List.splitOn ':') same
  rw [List.splitOn_append_cons_self_of_not_mem free,
    List.splitOn_append_cons_self_of_not_mem free'] at cuts
  obtain rfl := (List.cons.inj cuts).1
  exact ⟨rfl, (List.cons.inj (List.append_cancel_left same)).2⟩

theorem length_segments (name : String) :
    (segments name).length = name.toList.count ':' + 1 := by
  rw [segments, List.length_map, length_splitOn_colon]

/-! ## Depth -/

/-- A glob is not nested too deeply as long as its deepest item is below the limit. This holds of
a lone star as well, though its expression is another one than that of a star among other
items. -/
theorem depth_tokens_le_iff {glob : List Char} :
    depth (tokens glob) ≤ depthLimit ↔ Item.deepest (items glob) < depthLimit := by
  by_cases lone : glob = ['*']
  · subst lone
    decide
  · rw [tokens_eq_sequenceTokens lone, Item.depth_sequenceTokens_le_iff]

theorem toList_ne_lone_star {glob : String} (several : glob ≠ "*") : glob.toList ≠ ['*'] :=
  fun lone => several (String.toList_inj.mp lone)

/-- The two anchors are one level around the items of a glob. -/
theorem depth_tokens {glob : List Char} (several : glob ≠ ['*']) :
    depth (tokens glob) = Item.deepest (items glob) + 1 := by
  rw [tokens_eq_sequenceTokens several, Item.depth_sequenceTokens, Item.anchoredDepth_eq]

/-! ## A colon outside of any group -/

/-- What a colon means with this text behind it. -/
def colonItem (behind : List Char) : Item :=
  if startsWithStars behind = true then .cross else .lit ':'

/-- A colon gives the same token behind a backslash as without one, and ends the backslash. -/
theorem Cursor.read_colon (s : Cursor) (behind : List Char) :
    ∃ token, s.read ':' behind = (some token, ⟨false, s.depth⟩) ∧
      (colonItem behind).tokens = [token] := by
  rcases s with ⟨escaping, depth⟩
  unfold Cursor.read colonItem
  by_cases stars : startsWithStars behind = true
  · rw [if_pos ⟨rfl, stars⟩, if_pos stars]
    exact ⟨.cross, rfl, rfl⟩
  · have literal : ¬ (':' = ':' ∧ startsWithStars behind = true) := fun both => stars both.2
    rw [if_neg literal, if_neg stars]
    refine ⟨.lit ':', ?_, rfl⟩
    cases escaping with
    | true => rfl
    | false => rfl

/-- A text without a crossing does not begin with one, and neither does it have one behind its
first character. -/
theorem bounded_of_cons {c : Char} {text : List Char}
    (bounded : ¬ [':', '*', '*'] <:+: c :: text) :
    ¬ (c = ':' ∧ startsWithStars text = true) ∧ ¬ [':', '*', '*'] <:+: text := by
  constructor
  · intro ⟨colon, stars⟩
    rw [Reading.startsWithStars_iff] at stars
    have crossing : [':', '*', '*'] <+: c :: text :=
      List.cons_prefix_cons.mpr ⟨colon.symm, stars⟩
    exact bounded crossing.isInfix
  · intro crossing
    exact bounded (List.infix_cons crossing)

theorem cut_ne_lone_star (before behind : List Char) : before ++ ':' :: behind ≠ ['*'] := by
  intro lone
  have colon : ':' ∈ before ++ ':' :: behind := by simp
  rw [lone] at colon
  exact absurd colon (by decide)

/-- A glob with a colon outside of any group is read in two parts, with one item for the colon
between them. -/
theorem tokens_cut {before : List Char} (closed : (scan .start before).2.depth = 0)
    (behind : List Char) :
    tokens (before ++ ':' :: behind) =
      Item.sequenceTokens (items before ++ colonItem behind :: items behind) := by
  have apart : Apart before (':' :: behind) := .of_head_ne (by simp) before
  obtain ⟨token, step, item⟩ := Cursor.read_colon (scan .start before).2 behind
  rw [closed] at step
  rw [tokens_of_several (cut_ne_lone_star before behind), scan_append apart,
    Reading.scan_cons_of_read step, Item.sequenceTokens_append, Item.sequenceTokens, item,
    ← scan_start_closed behind, scan_start_of_closed closed]
  simp only [Option.toList_some, List.append_assoc]
  rfl

theorem language_tokens_cut {before : List Char} (closed : (scan .start before).2.depth = 0)
    (behind : List Char) :
    language (tokens (before ++ ':' :: behind)) =
      Item.sequenceLanguage (items before) *
        ((colonItem behind).language * Item.sequenceLanguage (items behind)) := by
  rw [tokens_cut closed, Item.language_sequenceTokens, Item.sequenceLanguage_append,
    Item.sequenceLanguage]

end Arbiter.Glob
