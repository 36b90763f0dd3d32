import Arbiter.Proofs.Glob.Size

/-!
# Crossings

A crossing between two globs accounts for any text at all. The colon is used up by it even
behind a backslash, and its two stars, which are read once more, add nothing.

* `tokens_crossing`: a glob with a crossing has the items of the globs on both sides, and three
  items between them.
* `language_crossing`: what the two globs stand for, with any text between them.
* `Pattern.accepts_crossing_iff`: a glob with a crossing accepts the texts that are cut into one
  that the glob before the crossing accepts, any text, and one that the glob behind it accepts.
-/

namespace Arbiter.Glob

/-! ## Any text -/

/-- Beside any text, a part that may be empty adds nothing. -/
theorem top_mul_of_nil_mem {l : Language Char} (empty : [] ∈ l) : ⊤ * l = ⊤ := by
  ext w
  have cut : w ++ [] ∈ ⊤ * l := Language.append_mem_mul trivial empty
  rw [List.append_nil] at cut
  exact iff_of_true cut trivial

theorem mul_top_of_nil_mem {l : Language Char} (empty : [] ∈ l) : l * ⊤ = ⊤ := by
  ext w
  have cut : [] ++ w ∈ l * ⊤ := Language.append_mem_mul empty trivial
  exact iff_of_true cut trivial

theorem mem_mul_top_mul_iff {l k : Language Char} {w : List Char} :
    w ∈ l * ⊤ * k ↔ ∃ u x v, u ∈ l ∧ v ∈ k ∧ w = u ++ x ++ v := by
  constructor
  · intro member
    obtain ⟨y, front, v, last, rfl⟩ := Language.mem_mul.mp member
    obtain ⟨u, first, x, -, rfl⟩ := Language.mem_mul.mp front
    exact ⟨u, x, v, first, last, rfl⟩
  · intro ⟨u, x, v, first, last, cut⟩
    rw [cut]
    exact Language.append_mem_mul (Language.append_mem_mul first trivial) last

theorem nil_mem_star : [] ∈ Item.star.language :=
  List.forall_mem_nil _

/-- The items of a lone star stand for less than the lone star. Beside any text, this makes no
difference. -/
theorem items_mul_top (glob : List Char) :
    Item.sequenceLanguage (items glob) * ⊤ = language (tokens glob) * ⊤ := by
  by_cases lone : glob = ['*']
  · subst lone
    rw [sequenceLanguage_items_star, language_tokens_star, mul_top_of_nil_mem nil_mem_star,
      mul_top_of_nil_mem (l := ⊤) trivial]
  · rw [language_tokens lone]

theorem top_mul_items (glob : List Char) :
    ⊤ * Item.sequenceLanguage (items glob) = ⊤ * language (tokens glob) := by
  by_cases lone : glob = ['*']
  · subst lone
    rw [sequenceLanguage_items_star, language_tokens_star, top_mul_of_nil_mem nil_mem_star,
      top_mul_of_nil_mem (l := ⊤) trivial]
  · rw [language_tokens lone]

/-! ## Two globs with a crossing between them -/

/-- Two stars that no colon precedes are items of their own. -/
theorem sequenceTokens_items_stars (glob : List Char) :
    Item.sequenceTokens (items ('*' :: '*' :: glob)) =
      Item.sequenceTokens (.star :: .star :: items glob) := by
  have star (ahead : List Char) : Cursor.start.read '*' ahead = (some .star, .start) := rfl
  rw [← scan_start_closed, Reading.scan_cons_of_read (star _), Reading.scan_cons_of_read (star _),
    Item.sequenceTokens, Item.sequenceTokens, ← scan_start_closed glob]
  rfl

variable {before : List Char} (closed : (scan .start before).2.depth = 0) (behind : List Char)

include closed

/-- The items of a glob with a crossing. -/
theorem tokens_crossing :
    tokens (before ++ ':' :: '*' :: '*' :: behind) =
      Item.sequenceTokens (items before ++ .cross :: .star :: .star :: items behind) := by
  rw [tokens_cut closed, Item.sequenceTokens_append, Item.sequenceTokens,
    sequenceTokens_items_stars, Item.sequenceTokens_append]
  rfl

/-- A crossing stands for any text, between what the globs on both sides stand for. -/
theorem language_crossing :
    language (tokens (before ++ ':' :: '*' :: '*' :: behind)) =
      language (tokens before) * ⊤ * language (tokens behind) := by
  have any : Item.cross.language = ⊤ := rfl
  rw [tokens_crossing closed, Item.language_sequenceTokens, Item.sequenceLanguage_append,
    Item.sequenceLanguage, Item.sequenceLanguage, Item.sequenceLanguage, any, ← mul_assoc ⊤,
    top_mul_of_nil_mem nil_mem_star, ← mul_assoc ⊤, top_mul_of_nil_mem nil_mem_star, ← mul_assoc,
    items_mul_top, mul_assoc, top_mul_items, ← mul_assoc]

/-- A crossing makes no glob too deep. -/
theorem depth_crossing_le (first : depth (tokens before) ≤ depthLimit)
    (last : depth (tokens behind) ≤ depthLimit) :
    depth (tokens (before ++ ':' :: '*' :: '*' :: behind)) ≤ depthLimit := by
  rw [depth_tokens_le_iff] at first last
  rw [tokens_crossing closed, Item.depth_sequenceTokens_le_iff, Item.deepest_append]
  simp only [Item.deepest, Item.depth]
  have limit : depthLimit = 250 := rfl
  omega

/-- By the estimate, a crossing between two globs takes what they take, and more. -/
theorem estimatedSize_le_crossing :
    estimatedSize (Item.sequenceTokens (items before)) +
        estimatedSize (Item.sequenceTokens (items behind)) ≤
      estimatedSize (tokens (before ++ ':' :: '*' :: '*' :: behind)) := by
  rw [tokens_crossing closed, Item.sequenceTokens_append, estimatedSize_append]
  simp only [Item.sequenceTokens, Item.tokens, estimatedSize_append]
  omega

end Arbiter.Glob

namespace Arbiter.Pattern

open Glob

section

variable [SizeLimit]

theorem accepts_iff_mem_crossing {glob : String} {before behind : List Char}
    (text : glob.toList = before ++ ':' :: '*' :: '*' :: behind)
    (closed : (scan .start before).2.depth = 0) (first : depth (tokens before) ≤ depthLimit)
    (last : depth (tokens behind) ≤ depthLimit) (small : fits (tokens glob.toList))
    (candidate : String) :
    (compile glob).accepts candidate = true ↔
      candidate.toList ∈ language (tokens before) * ⊤ * language (tokens behind) := by
  have shallow := depth_crossing_le closed behind first last
  rw [← text] at shallow
  rw [accepts_compile_iff_mem_language (not_refused_iff.mpr ⟨shallow, small⟩), text,
    language_crossing closed]

/-- **The meaning of a crossing.** Between two globs, of which the first one leaves no group
open, it accounts for any text at all. So a text without special characters and a crossing
behind it accept the texts that begin with the text. The globs are not refused, and neither is
the program of them together too large. -/
theorem accepts_crossing_iff (g h candidate : String) :
    ((scan .start g.toList).2.depth = 0 → ¬ Refused (tokens g.toList) →
        ¬ Refused (tokens h.toList) → fits (tokens (g ++ ":**" ++ h).toList) →
        ((compile (g ++ ":**" ++ h)).accepts candidate = true ↔
          ∃ u w v, candidate = u ++ w ++ v ∧ (compile g).accepts u = true ∧
            (compile h).accepts v = true)) ∧
      ((∀ c ∈ g.toList, c ∉ special) → fits (tokens (g ++ ":**").toList) →
        ((compile (g ++ ":**")).accepts candidate = true ↔ ∃ rest, candidate = g ++ rest)) := by
  constructor
  · intro closed first last small
    have text : (g ++ ":**" ++ h).toList = g.toList ++ ':' :: '*' :: '*' :: h.toList := by
      simp [String.toList_append]
    rw [accepts_iff_mem_crossing text closed (not_refused_iff.mp first).1
      (not_refused_iff.mp last).1 small, mem_mul_top_mul_iff]
    constructor
    · intro ⟨u, x, v, inFirst, inLast, cut⟩
      refine ⟨String.ofList u, String.ofList x, String.ofList v, ?_, ?_, ?_⟩
      · rw [← String.ofList_append, ← String.ofList_append, ← cut, String.ofList_toList]
      · rw [accepts_compile_iff_mem_language first, String.toList_ofList]
        exact inFirst
      · rw [accepts_compile_iff_mem_language last, String.toList_ofList]
        exact inLast
    · intro ⟨u, w, v, cut, inFirst, inLast⟩
      rw [accepts_compile_iff_mem_language first] at inFirst
      rw [accepts_compile_iff_mem_language last] at inLast
      refine ⟨u.toList, w.toList, v.toList, inFirst, inLast, ?_⟩
      rw [cut, String.toList_append, String.toList_append]
  · intro plain small
    have quotes := quote_eq_self plain
    have closed := closed_quote (fun _ => false) g.toList
    have shallow := depth_quote_le (fun _ => false) g.toList
    have single := language_quote (fun _ => false) g.toList
    rw [quotes] at closed shallow single
    have text : (g ++ ":**").toList = g.toList ++ ':' :: '*' :: '*' :: [] := by
      simp [String.toList_append]
    have nothing : language (tokens []) = 1 := rfl
    rw [accepts_iff_mem_crossing text closed shallow (by decide) small, mem_mul_top_mul_iff,
      single, nothing]
    constructor
    · intro ⟨u, x, v, inFirst, inLast, cut⟩
      obtain rfl : u = g.toList := inFirst
      obtain rfl : v = [] := inLast
      refine ⟨String.ofList x, ?_⟩
      rw [← String.toList_inj, cut, String.toList_append, String.toList_ofList, List.append_nil]
    · intro ⟨rest, cut⟩
      refine ⟨g.toList, rest.toList, [], rfl, rfl, ?_⟩
      rw [cut, String.toList_append, List.append_nil]

end

/-- A closed group and a pending backslash before the crossing and a lone star behind it, and
a plain text without the colon behind it. -/
theorem accepts_crossing_of_pending_backslash :
    (compile "\x7ba,b\x7d\\:***").accepts "b::\n*" = true ∧
      (compile "urn:**").accepts "urn" = true :=
  ⟨((accepts_crossing_iff "\x7ba,b\x7d\\" "*" "b::\n*").1 (by decide) (by decide)
      (by decide) (by decide)).mpr ⟨"b", "::", "\n*", rfl, by decide, by decide⟩,
    ((accepts_crossing_iff "urn" "" "urn").2 (by simp [special]) (by decide)).mpr ⟨"", rfl⟩⟩

section

variable {p q : String} (first : Simple p.toList) (last : Simple q.toList)

include first last

theorem refused_crossing_of_simple
    (large : sizeBound < estimatedSize (tokens p.toList) + estimatedSize (tokens q.toList)) :
    Refused (tokens (p ++ ":**" ++ q).toList) := by
  have text : (p ++ ":**" ++ q).toList = p.toList ++ ':' :: '*' :: '*' :: q.toList := by
    simp [String.toList_append]
  have closed : (scan .start p.toList).2.depth = 0 := by
    rw [scan_simple first]
    rfl
  have within := estimatedSize_le_crossing closed q.toList
  rw [← tokens_eq_sequenceTokens (ne_lone_star_of_simple first),
    ← tokens_eq_sequenceTokens (ne_lone_star_of_simple last)] at within
  apply refused_of_sizeBound_lt
  rw [text]
  exact Nat.lt_of_lt_of_le large within

/-- Two simple texts whose program is too large with a crossing between them are not accepted
then, one behind the other. -/
theorem accepts_crossing_eq_false
    (large : sizeBound < estimatedSize (tokens p.toList) + estimatedSize (tokens q.toList)) :
    (compile (p ++ ":**" ++ q)).accepts (p ++ q) = false := by
  apply accepts_eq_false_of_refused (refused_crossing_of_simple first last large)
  intro same
  have star : '*' ∈ (p ++ ":**" ++ q).toList := by simp [String.toList_append]
  rw [← same] at star
  exact simple_append first last '*' star (by decide)

end

/-- A crossing between two long texts, and a crossing behind both. The texts are plain, and
neither is refused, but the program of both is too large. -/
theorem accepts_crossing_of_long_texts :
    ((scan .start longText.toList).2.depth = 0 ∧ ¬ Refused (tokens longText.toList) ∧
        (compile longText).accepts longText = true ∧
        (compile (longText ++ ":**" ++ longText)).accepts (longText ++ longText) = false) ∧
      (∀ c ∈ (longText ++ longText).toList, c ∉ special) ∧
        (compile (longText ++ longText ++ ":**")).accepts (longText ++ longText) = false := by
  have closed : (scan .start longText.toList).2.depth = 0 := by
    rw [scan_simple simple_longText]
    rfl
  have both : Simple (longText ++ longText).toList := simple_append simple_longText simple_longText
  have nothing : Simple "".toList := nofun
  refine ⟨⟨closed, not_refused_longText, accepts_longText, ?_⟩, ?_, ?_⟩
  · apply accepts_crossing_eq_false simple_longText simple_longText
    rw [estimatedSize_longText]
    decide
  · intro c member marked
    have other : c ≠ '😀' := by
      rintro rfl
      exact absurd marked (by decide)
    rw [String.toList_append, List.mem_append, or_self_iff] at member
    exact notMem_longText other member
  · have missed := accepts_crossing_eq_false both nothing (by
      rw [estimatedSize_tokens_append simple_longText simple_longText, estimatedSize_longText]
      decide)
    rw [String.append_empty, String.append_empty] at missed
    exact missed

end Arbiter.Pattern
