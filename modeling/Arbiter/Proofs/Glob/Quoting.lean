import Arbiter.Proofs.Glob.Cut

/-!
# Quoting

A text is quoted by a backslash before each of its special characters, and possibly before
others. The glob that this makes stands for the text alone.

* `special` and `quote`: which characters have to be quoted, and the quoted text.
* `items_quote`: a quoted text is read into the literals of the text.
* `language_quote`: it stands for the text alone.
* `Pattern.accepts_quoted_iff`: a quoted text accepts itself, unquoted, and nothing else.
-/

namespace Arbiter.Glob

/-- The characters that mean something else than themselves outside of any group, unless a
backslash escapes them. -/
def special : List Char := ['*', '?', '{', '\\']

/-- A text with a backslash before every special character, and before those others whose
positions are chosen. -/
def quote (chosen : Nat → Bool) : List Char → List Char
  | [] => []
  | c :: text =>
    let rest := quote (fun i => chosen (i + 1)) text
    if c ∈ special ∨ chosen 0 = true then '\\' :: c :: rest else c :: rest

theorem quote_cons_of_escaped {chosen : Nat → Bool} {c : Char}
    (escaped : c ∈ special ∨ chosen 0 = true) (text : List Char) :
    quote chosen (c :: text) = '\\' :: c :: quote (fun i => chosen (i + 1)) text :=
  if_pos escaped

theorem quote_cons_of_bare {chosen : Nat → Bool} {c : Char}
    (bare : ¬ (c ∈ special ∨ chosen 0 = true)) (text : List Char) :
    quote chosen (c :: text) = c :: quote (fun i => chosen (i + 1)) text :=
  if_neg bare

/-- A text without special characters is quoted as it stands. -/
theorem quote_eq_self {text : List Char} (plain : ∀ c ∈ text, c ∉ special) :
    quote (fun _ => false) text = text := by
  induction text with
  | nil => rfl
  | cons c text ih =>
    rw [List.forall_mem_cons] at plain
    have bare : ¬ (c ∈ special ∨ false = true) := fun escaped =>
      escaped.elim plain.1 Bool.false_ne_true
    rw [quote_cons_of_bare bare, ih plain.2]

/-- No star is left bare, so a quoted text does not begin with one. -/
theorem head?_quote_ne_star (chosen : Nat → Bool) (text : List Char) :
    (quote chosen text).head? ≠ some '*' := by
  intro star
  cases text with
  | nil => cases star
  | cons c text =>
    by_cases escaped : c ∈ special ∨ chosen 0 = true
    · rw [quote_cons_of_escaped escaped] at star
      exact absurd (Option.some.inj star) (by decide)
    · rw [quote_cons_of_bare escaped] at star
      obtain rfl : c = '*' := Option.some.inj star
      exact escaped (.inl (by decide))

/-! ## Reading a quoted text -/

namespace Reading

/-- An escaped character is a literal, unless it is a colon that begins a crossing. -/
theorem escaped_of_bounded {ahead : List Char} (bounded : ¬ ['*', '*'] <+: ahead) (r : Reading)
    (c : Char) : r.escaped c ahead = r.add (.lit c) :=
  if_neg fun crossing => bounded crossing.2

/-- Outside of any group, a character that is not special is a literal as well. -/
theorem plain_of_bounded {ahead : List Char} (bounded : ¬ ['*', '*'] <+: ahead) {r : Reading}
    (outside : r.groups = []) {c : Char} (bare : c ∉ special) :
    r.plain c ahead = r.add (.lit c) := by
  rcases r with ⟨items, groups⟩
  dsimp only at outside
  subst outside
  unfold plain
  rw [if_neg fun crossing => bounded crossing.2]
  split
  · exact absurd (by decide) bare
  · exact absurd (by decide) bare
  · exact absurd (by decide) bare
  · rfl
  · rfl
  · rfl

/-- A quoted text is read into the literals of the text. -/
theorem read_quote {r : Reading} (outside : r.groups = []) (chosen : Nat → Bool)
    (text : List Char) : r.read (quote chosen text) = ⟨r.items ++ text.map .lit, []⟩ := by
  induction text generalizing r chosen with
  | nil =>
    rw [quote, read, List.map_nil, List.append_nil, ← outside]
  | cons c text ih =>
    have bounded : ¬ ['*', '*'] <+: quote (fun i => chosen (i + 1)) text := by
      intro stars
      obtain ⟨rest, begins⟩ := stars
      apply head?_quote_ne_star (fun i => chosen (i + 1)) text
      rw [← begins]
      rfl
    have literal : (r.add (.lit c)).read (quote (fun i => chosen (i + 1)) text) =
        ⟨r.items ++ (c :: text).map .lit, []⟩ := by
      have rest := ih (r := r.add (.lit c)) outside (fun i => chosen (i + 1))
      rw [rest, add, List.append_assoc, List.map_cons, List.singleton_append]
    by_cases escaped : c ∈ special ∨ chosen 0 = true
    · rw [quote_cons_of_escaped escaped, read, escaped_of_bounded bounded, literal]
    · rw [not_or] at escaped
      have plain : c ≠ '\\' := by
        rintro rfl
        exact escaped.1 (by decide)
      rw [quote_cons_of_bare (not_or.mpr escaped), read_cons plain,
        plain_of_bounded bounded outside escaped.1, literal]

end Reading

theorem items_quote (chosen : Nat → Bool) (text : List Char) :
    items (quote chosen text) = text.map .lit := by
  rw [items, Reading.read_quote rfl]
  rfl

theorem closed_quote (chosen : Nat → Bool) (text : List Char) :
    (scan .start (quote chosen text)).2.depth = 0 := by
  have depth := (Reading.scan_cursor .start (quote chosen text)).2
  rw [Reading.read_quote rfl] at depth
  exact depth

/-! ## What a quoted text stands for -/

/-- Literals one after another stand for their text alone. -/
theorem Item.sequenceLanguage_map_lit (text : List Char) :
    sequenceLanguage (text.map .lit) = {text} := by
  induction text with
  | nil => rfl
  | cons c text ih =>
    rw [List.map_cons, sequenceLanguage, ih]
    ext w
    constructor
    · intro member
      obtain ⟨u, first, v, later, rfl⟩ := Language.mem_mul.mp member
      obtain rfl : u = [c] := first
      obtain rfl : v = text := later
      rfl
    · intro member
      obtain rfl : w = c :: text := member
      exact Language.append_mem_mul (a := [c]) rfl rfl

theorem depth_quote_le (chosen : Nat → Bool) (text : List Char) :
    depth (tokens (quote chosen text)) ≤ depthLimit := by
  have flat : ∀ item ∈ text.map Item.lit, item.depth ≤ 0 := by
    rw [List.forall_mem_map]
    exact fun c _ => Nat.le_refl 0
  rw [depth_tokens_le_iff, items_quote]
  exact Nat.lt_of_le_of_lt (Item.deepest_le flat) (by decide)

theorem language_quote (chosen : Nat → Bool) (text : List Char) :
    language (tokens (quote chosen text)) = {text} := by
  have several : quote chosen text ≠ ['*'] := by
    intro lone
    apply head?_quote_ne_star chosen text
    rw [lone]
    rfl
  rw [language_tokens several, items_quote, Item.sequenceLanguage_map_lit]

end Arbiter.Glob

namespace Arbiter.Pattern

open Glob

/-- A text with a backslash before every special character, and before those others whose
positions are chosen. -/
def quoted (chosen : Nat → Bool) (text : String) : String :=
  String.ofList (quote chosen text.toList)

section

variable [SizeLimit]

theorem not_refused_quoted {chosen : Nat → Bool} {text : String}
    (small : fits (tokens (quoted chosen text).toList)) :
    ¬ Refused (tokens (quoted chosen text).toList) := by
  refine not_refused_iff.mpr ⟨?_, small⟩
  rw [quoted, String.toList_ofList]
  exact depth_quote_le chosen text.toList

/-- A text without special characters accepts itself and nothing else. If it is too long to be
used as an expression, it is compared as it stands, which comes to the same. -/
theorem accepts_plain_iff {text : String} (plain : ∀ c ∈ text.toList, c ∉ special)
    (candidate : String) : (compile text).accepts candidate = true ↔ candidate = text := by
  by_cases refused : Refused (tokens text.toList)
  · exact accepts_compile_iff_eq refused candidate
  · have single := language_quote (fun _ => false) text.toList
    rw [quote_eq_self plain] at single
    rw [accepts_compile_iff_mem_language refused, single]
    exact String.toList_inj

/-- **Quoting is exact.** If nothing is refused but for its depth, then a quoted text is not
refused, and accepts the text and nothing else, whatever characters are quoted beside the
special ones. It is enough that its own program is small enough. A text without special
characters needs no quoting: it accepts itself and nothing else, refused or not. -/
theorem accepts_quoted_iff (chosen : Nat → Bool) (text candidate : String) :
    (fits (tokens (quoted chosen text).toList) →
        ¬ Refused (tokens (quoted chosen text).toList) ∧
          ((compile (quoted chosen text)).accepts candidate = true ↔ candidate = text)) ∧
      ((∀ c ∈ text.toList, c ∉ special) →
        ((compile text).accepts candidate = true ↔ candidate = text)) := by
  refine ⟨fun small => ⟨not_refused_quoted small, ?_⟩, fun plain => accepts_plain_iff plain _⟩
  have quotes : (quoted chosen text).toList = quote chosen text.toList := String.toList_ofList
  rw [accepts_compile_iff_mem_language (not_refused_quoted small), quotes, language_quote]
  exact String.toList_inj

end

/-- A quoted colon before stars, a quoted backslash before a brace, and a bare text with a
comma and a closing brace. -/
theorem accepts_quoted_of_marks :
    (compile (quoted (fun i => i == 0) ":**\\\x7b")).accepts ":**\\\x7b" = true ∧
      (compile "a:,\x7d.").accepts "a:,\x7d." = true :=
  ⟨((accepts_quoted_iff (fun i => i == 0) ":**\\\x7b" _).1 (by decide)).2.mpr rfl,
    ((accepts_quoted_iff (fun _ => false) "a:,\x7d." _).2 (by simp [special])).mpr rfl⟩

end Arbiter.Pattern
