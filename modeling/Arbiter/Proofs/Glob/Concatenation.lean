import Arbiter.Proofs.Glob.Size

/-!
# One glob behind another

A glob that leaves no group open and no backslash pending hands a fresh cursor to the glob
behind it. If no crossing stands across the border either, the two are read independently, and
the texts that they accept together are those of the first with those of the second behind them.

* `tokens_append`: the items of both globs, one after the other.
* `language_append` and `depth_append`: what both stand for, and how deep they are nested.
* `mem_mul_iff_exists_cut`: a product of languages, as a cut of the text.
* `Pattern.accepts_append_iff`: two globs accept together what can be cut into a text of each.
-/

namespace Arbiter.Glob

/-- Two texts that are no lone stars are none together. -/
theorem append_ne_lone_star {text rest : List Char} (first : text ≠ ['*'])
    (second : rest ≠ ['*']) : text ++ rest ≠ ['*'] := by
  intro lone
  rcases List.append_eq_singleton_iff.mp lone with ⟨-, rest_lone⟩ | ⟨text_lone, -⟩
  · exact second rest_lone
  · exact first text_lone

section

variable {text rest : List Char} (ended : (scan .start text).2 = .start)
  (apart : Apart text rest) (several : text ++ rest ≠ ['*'])

include ended apart several

/-- A glob that ends where it began, and the glob behind it, have their own items each. -/
theorem tokens_append :
    tokens (text ++ rest) = Item.sequenceTokens (items text ++ items rest) := by
  have closed : (scan .start text).2.depth = 0 := by
    rw [ended]
    rfl
  have first := scan_start_of_closed closed
  have second := scan_start_closed rest
  rw [tokens_of_several several, scan_append apart, ended, Item.sequenceTokens_append, ← first,
    ← second]
  exact List.append_assoc ..

theorem language_append :
    language (tokens (text ++ rest)) =
      Item.sequenceLanguage (items text) * Item.sequenceLanguage (items rest) := by
  rw [tokens_append ended apart several, Item.language_sequenceTokens,
    Item.sequenceLanguage_append]

/-- The deeper one of the two decides how deep they are together. -/
theorem depth_append :
    depth (tokens (text ++ rest)) =
      max (Item.deepest (items text) + 1) (Item.deepest (items rest) + 1) := by
  rw [tokens_append ended apart several, Item.depth_sequenceTokens, Item.anchoredDepth_eq,
    Item.deepest_append, Nat.add_max_add_right]

end

/-- A text of a product of two languages is cut into a text of each. -/
theorem mem_mul_iff_exists_cut {l k : Language Char} {text : String} :
    text.toList ∈ l * k ↔
      ∃ u v : String, text = u ++ v ∧ u.toList ∈ l ∧ v.toList ∈ k := by
  rw [Language.mem_mul]
  constructor
  · intro ⟨u, first, v, second, cut⟩
    refine ⟨String.ofList u, String.ofList v, ?_, ?_, ?_⟩
    · rw [← String.ofList_append, cut, String.ofList_toList]
    · rwa [String.toList_ofList]
    · rwa [String.toList_ofList]
  · intro ⟨u, v, cut, first, second⟩
    refine ⟨u.toList, first, v.toList, second, ?_⟩
    rw [cut, String.toList_append]

end Arbiter.Glob

namespace Arbiter.Pattern

open Glob

/-- **Concatenation.** A glob that leaves no group open and no backslash pending, and a glob
behind it, are nested as deep together as the deeper one of them. So they are refused only if
one of them is, or if the program of both together is too large. Otherwise they accept together
the texts that are cut into one that the first glob accepts and one that the second glob
accepts. Neither is a lone star, and no crossing stands across their border. -/
theorem accepts_append_iff [SizeLimit] {g h : String} (first : g ≠ "*") (second : h ≠ "*")
    (shallow : ¬ Refused (tokens g.toList)) (shallow' : ¬ Refused (tokens h.toList))
    (closed : (scan .start g.toList).2.depth = 0)
    (settled : (scan .start g.toList).2.escaping = false)
    (apart : Apart g.toList h.toList) :
    depth (tokens (g ++ h).toList) = max (depth (tokens g.toList)) (depth (tokens h.toList)) ∧
      (Refused (tokens (g ++ h).toList) ↔ ¬ fits (tokens (g ++ h).toList)) ∧
      (fits (tokens (g ++ h).toList) → ∀ candidate,
        (compile (g ++ h)).accepts candidate = true ↔
          ∃ u v, candidate = u ++ v ∧ (compile g).accepts u = true ∧
            (compile h).accepts v = true) := by
  have g_several := toList_ne_lone_star first
  have h_several := toList_ne_lone_star second
  have several := append_ne_lone_star g_several h_several
  have ended : (scan .start g.toList).2 = .start := by
    have cursor : (scan .start g.toList).2 =
        ⟨(scan .start g.toList).2.escaping, (scan .start g.toList).2.depth⟩ := rfl
    rw [cursor, settled, closed]
    rfl
  have depths : depth (tokens (g ++ h).toList) =
      max (depth (tokens g.toList)) (depth (tokens h.toList)) := by
    rw [String.toList_append, depth_append ended apart several, depth_tokens g_several,
      depth_tokens h_several]
  have together : depth (tokens (g ++ h).toList) ≤ depthLimit := by
    rw [depths]
    exact Nat.max_le.mpr ⟨(not_refused_iff.mp shallow).1, (not_refused_iff.mp shallow').1⟩
  refine ⟨depths, or_iff_right (Nat.not_lt.mpr together), fun small candidate => ?_⟩
  rw [accepts_compile_iff_mem_language (not_refused_iff.mpr ⟨together, small⟩),
    String.toList_append, language_append ended apart several, mem_mul_iff_exists_cut]
  simp only [accepts_compile_iff_mem_language shallow, accepts_compile_iff_mem_language shallow',
    language_tokens g_several, language_tokens h_several]

/-- A group and an escaped colon, with a star and a group that is left open behind them. -/
theorem accepts_append_of_escaped_colon :
    (compile ("\x7ba,b?\x7d\\:" ++ "*\x7bc,:**")).accepts "bx:yzc" = true :=
  ((accepts_append_iff (by decide) (by decide) (by decide) (by decide) (by decide) (by decide)
    (by decide)).2.2 (by decide) "bx:yzc").mpr ⟨"bx:", "yzc", rfl, by decide, by decide⟩

/-- Two long globs. Neither is refused, but the program of both is too large. So they are
refused together, and do not accept a text of each. -/
theorem accepts_append_of_long_texts :
    (longGlob ≠ "*" ∧ longText ≠ "*" ∧ ¬ Refused (tokens longGlob.toList) ∧
        ¬ Refused (tokens longText.toList) ∧ (scan .start longGlob.toList).2 = .start ∧
        Apart longGlob.toList longText.toList) ∧
      (compile (longGlob ++ longText)).expression? = none ∧
      (compile longGlob).accepts longName = true ∧ (compile longText).accepts longText = true ∧
      (compile (longGlob ++ longText)).accepts (longName ++ longText) = false := by
  have refused : Refused (tokens (longGlob ++ longText).toList) := by
    apply refused_of_sizeBound_lt
    rw [estimatedSize_tokens_append simple_longGlob simple_longText, estimatedSize_longGlob,
      estimatedSize_longText]
    decide
  have ended : (scan .start longGlob.toList).2 = .start := by
    rw [scan_simple simple_longGlob]
  have apart : Apart longGlob.toList longText.toList := apart_of_simple simple_longText _
  refine ⟨⟨ne_star_of_simple simple_longGlob, ne_star_of_simple simple_longText,
      not_refused_longGlob, not_refused_longText, ended, apart⟩,
    expression?_of_refused refused, accepts_longGlob, accepts_longText,
    accepts_eq_false_of_refused refused ?_⟩
  rw [longName, longGlob, String.append_assoc, String.append_assoc]
  exact singleton_append_ne (by decide) _ _

end Arbiter.Pattern
