import Arbiter.Proofs.Glob.Colons
import Arbiter.Proofs.Glob.Size
import Mathlib.Data.List.Forall2

/-!
# Matching segment by segment

A glob without groups and without a crossing accepts a name if it has as many segments as the
name, and each of them accepts the segment of the name at the same place. Each is a glob of
its own then: a backslash in front of a colon is the last character of its segment, and a
segment may be a lone star, which alone accepts any text at all.

* `colon_notMem_of_mem_items`: a text that a segment stands for has no colon.
* `mem_items_cut_iff`: a colon divides what a glob stands for as it divides the glob.
* `Pattern.accepts_segment_iff`: a segment alone accepts what it stands for inside of a glob.
* `Pattern.accepts_iff_segments`: matching goes segment by segment.
-/

namespace Arbiter.Glob

/-! ## A single segment -/

/-- A text that a segment stands for has no colon. -/
theorem colon_notMem_of_mem_items {segment : List Char} (free : ':' ∉ segment) {w : List Char}
    (member : w ∈ Item.sequenceLanguage (items segment)) : ':' ∉ w := by
  have bounded : ¬ [':', '*', '*'] <:+: segment :=
    fun crossing => free (crossing.subset List.mem_cons_self)
  have within := count_colon_le_of_mem_items bounded member
  rw [List.count_eq_zero_of_not_mem free] at within
  exact List.not_mem_of_count_eq_zero (Nat.le_zero.mp within)

/-! ## Two parts -/

/-- Behind a text that opens no group, a colon that begins no crossing divides a glob, and a
text that the glob stands for is divided with it. -/
theorem mem_items_cut_iff {before behind : List Char} (flat : '{' ∉ unescaped before)
    (literal : startsWithStars behind = false) (w : List Char) :
    w ∈ Item.sequenceLanguage (items (before ++ ':' :: behind)) ↔
      ∃ u v, u ∈ Item.sequenceLanguage (items before) ∧
        v ∈ Item.sequenceLanguage (items behind) ∧ u ++ ':' :: v = w := by
  have colon : colonItem behind = .lit ':' := by
    rw [colonItem, literal, if_neg Bool.false_ne_true]
  rw [← language_tokens (cut_ne_lone_star before behind),
    language_tokens_cut (closed_of_flat flat), colon, Language.mem_mul]
  constructor
  · intro ⟨u, first, x, inside, same⟩
    obtain ⟨y, literal, v, later, rfl⟩ := Language.mem_mul.mp inside
    obtain rfl : y = [':'] := literal
    exact ⟨u, v, first, later, same⟩
  · intro ⟨u, v, first, later, same⟩
    refine ⟨u, first, ':' :: v, ?_, same⟩
    exact Language.append_mem_mul (a := [':']) rfl later

theorem bounded_of_cut {before behind : List Char}
    (bounded : ¬ [':', '*', '*'] <:+: before ++ ':' :: behind) :
    startsWithStars behind = false ∧ ¬ [':', '*', '*'] <:+: behind := by
  have suffix : ':' :: behind <:+: before ++ ':' :: behind :=
    (List.suffix_append before (':' :: behind)).isInfix
  obtain ⟨literal, later⟩ := bounded_of_cons fun crossing => bounded (crossing.trans suffix)
  refine ⟨?_, later⟩
  rw [Bool.eq_false_iff]
  exact fun stars => literal ⟨rfl, stars⟩

end Arbiter.Glob

namespace Arbiter.Pattern

open Glob

section

variable [SizeLimit]

/-- A segment alone accepts the segments that it stands for inside of a glob, if its program is
small enough. A lone star accepts other texts too, but no other segments. -/
theorem accepts_segment_iff {segment text : List Char} (flat : '{' ∉ unescaped segment)
    (small : fits (tokens segment)) (free : ':' ∉ text) :
    (compile (String.ofList segment)).accepts (String.ofList text) = true ↔
      text ∈ Item.sequenceLanguage (items segment) := by
  have readable := not_refused_iff.mpr ⟨depth_le_of_flat flat, small⟩
  rw [← String.toList_ofList (l := segment)] at readable
  rw [accepts_compile_iff_mem_language readable, String.toList_ofList, String.toList_ofList]
  by_cases lone : segment = ['*']
  · subst lone
    rw [language_tokens_star, sequenceLanguage_items_star]
    refine iff_of_true trivial ?_
    intro c member colon
    rw [colon] at member
    exact free member
  · rw [language_tokens lone]

/-- The texts that a glob stands for, segment by segment. The cases are those of the segments
on both sides: a single one, or a first one with more behind it. -/
theorem mem_items_iff_segments {glob : List Char} (flat : '{' ∉ unescaped glob)
    (bounded : ¬ [':', '*', '*'] <:+: glob)
    (small : ∀ segment ∈ glob.splitOn ':', fits (tokens segment)) (name : List Char) :
    name ∈ Item.sequenceLanguage (items glob) ↔
      List.Forall₂ (fun g n => (compile (String.ofList g)).accepts (String.ofList n) = true)
        (glob.splitOn ':') (name.splitOn ':') := by
  induction glob using segments_induction generalizing name with
  | segment glob free =>
    rw [List.splitOn_eq_singleton free] at small ⊢
    cases name using segments_induction with
    | segment name only =>
      have own := small glob List.mem_cons_self
      rw [List.splitOn_eq_singleton only, List.forall₂_cons, accepts_segment_iff flat own only]
      exact (and_iff_left .nil).symm
    | colon first rest only _ =>
      rw [List.splitOn_append_cons_self_of_not_mem only, List.forall₂_cons,
        List.forall₂_nil_left_iff]
      constructor
      · intro member
        have inside := colon_notMem_of_mem_items free member
        exact absurd (List.mem_append_right first List.mem_cons_self) inside
      · intro ⟨_, no_rest⟩
        exact absurd no_rest (List.splitOn_ne_nil ':' rest)
  | colon first rest free ih =>
    obtain ⟨between, cut⟩ := unescaped_cut first rest
    rw [cut, List.mem_append, List.mem_append, not_or, not_or] at flat
    obtain ⟨first_flat, -, rest_flat⟩ := flat
    obtain ⟨literal, rest_bounded⟩ := bounded_of_cut bounded
    rw [List.splitOn_append_cons_self_of_not_mem free] at small ⊢
    obtain ⟨first_small, rest_small⟩ := List.forall_mem_cons.mp small
    rw [mem_items_cut_iff first_flat literal]
    cases name using segments_induction with
    | segment name only =>
      rw [List.splitOn_eq_singleton only, List.forall₂_cons, List.forall₂_nil_right_iff]
      constructor
      · intro ⟨u, v, _, _, same⟩
        rw [← same] at only
        exact absurd (List.mem_append_right u List.mem_cons_self) only
      · intro ⟨_, no_rest⟩
        exact absurd no_rest (List.splitOn_ne_nil ':' rest)
    | colon u v only _ =>
      rw [List.splitOn_append_cons_self_of_not_mem only, List.forall₂_cons,
        accepts_segment_iff first_flat first_small only, ← ih rest_flat rest_bounded rest_small]
      constructor
      · intro ⟨u', v', first_member, rest_member, same⟩
        have inside := colon_notMem_of_mem_items free first_member
        obtain ⟨rfl, rfl⟩ := first_colon_unique inside only same
        exact ⟨first_member, rest_member⟩
      · intro ⟨first_member, rest_member⟩
        exact ⟨u, v, first_member, rest_member, rfl⟩

/-- **Matching goes segment by segment.** A glob without groups and without a crossing, other
than a lone star, accepts a name if and only if it has as many segments as the name, and each
of them, as a glob of its own, accepts the segment of the name at its place. The programs of the
glob and of its segments are small enough. -/
theorem accepts_iff_segments {glob : String} (several : glob ≠ "*")
    (flat : '{' ∉ unescaped glob.toList) (bounded : ¬ [':', '*', '*'] <:+: glob.toList)
    (whole : fits (tokens glob.toList)) (parts : ∀ g ∈ segments glob, fits (tokens g.toList))
    (name : String) :
    (compile glob).accepts name = true ↔
      List.Forall₂ (fun g n => (compile g).accepts n = true) (segments glob) (segments name) := by
  have list : glob.toList ≠ ['*'] := fun lone => several (String.toList_inj.mp lone)
  have readable := not_refused_iff.mpr ⟨depth_le_of_flat flat, whole⟩
  simp only [segments, List.forall_mem_map, String.toList_ofList] at parts
  rw [accepts_compile_iff_mem_language readable, language_tokens list,
    mem_items_iff_segments flat bounded parts, segments, segments, List.forall₂_map_left_iff,
    List.forall₂_map_right_iff]

end

/-- Escapes at a colon, a brace and a star, a wildcard in each segment, a segment that is a
lone star, and a segment that is empty. -/
theorem accepts_segments_of_escapes :
    (compile "a\\:*:\\\x7b?\\*::b").accepts "a:bc:\x7bx*::b" = true :=
  (accepts_iff_segments (by decide) (by decide) (by decide) (by decide) (by decide) _).mpr
    (by decide)

/-- Two long segments. Each accepts the long segment at its place, but the program of both is
too large, so the glob is compared as it stands. -/
theorem accepts_two_long_segments :
    let glob := longGlob ++ ":" ++ longText
    let name := longName ++ ":" ++ longText
    glob ≠ "*" ∧ '{' ∉ unescaped glob.toList ∧ ¬ [':', '*', '*'] <:+: glob.toList ∧
      List.Forall₂ (fun g n => (compile g).accepts n = true) (segments glob) (segments name) ∧
      (compile glob).accepts name = false := by
  intro glob name
  have colon : Simple ":".toList := List.forall_mem_singleton.mpr (by decide)
  have front : Simple (longGlob ++ ":").toList := simple_append simple_longGlob colon
  have simple : Simple glob.toList := simple_append front simple_longText
  have refused : Refused (tokens glob.toList) := by
    apply refused_of_sizeBound_lt
    rw [estimatedSize_tokens_append front simple_longText,
      estimatedSize_tokens_append simple_longGlob colon, estimatedSize_longGlob,
      estimatedSize_longText]
    decide
  have free : ':' ∉ longText.toList := notMem_longText (by decide)
  have glob_segments : segments glob = [longGlob, longText] :=
    segments_pair (notMem_singleton_append (by decide) free) free
  have name_segments : segments name = [longName, longText] :=
    segments_pair (notMem_singleton_append (by decide) free) free
  refine ⟨ne_star_of_simple simple, flat_of_simple simple,
    fun crossing => simple '*' (crossing.subset (by decide)) (by decide), ?_,
    accepts_eq_false_of_refused refused ?_⟩
  · rw [glob_segments, name_segments]
    exact .cons accepts_longGlob (.cons accepts_longText .nil)
  · intro same
    have segment := congrArg segments same
    rw [glob_segments, name_segments] at segment
    exact singleton_append_ne (by decide) longText longText (List.cons.inj segment).1

end Arbiter.Pattern
