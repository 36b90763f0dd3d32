import Arbiter.Proofs.Glob.Language

/-!
# Items

An item is a part of a glob that means something on its own: a literal, a
wildcard, or a whole group of alternatives, whose alternatives are sequences of
items again.

* `Item.language`: the texts that an item stands for. A sequence is the
  concatenation of its items, and a group is the union of its alternatives.
* `Item.tokens`: an item as a flat list of tokens.
* `Item.read_tokens`: reading an item's tokens appends the item's language, at any
  place in a glob and inside any open groups.
-/

namespace Arbiter.Glob

/-- A part of a glob. -/
inductive Item where
  | lit (c : Char)
  | star
  | one
  /-- Any text at all. -/
  | cross
  /-- One of several alternatives: those before the last one, and the last one. A
  group has at least one. -/
  | group (others : List (List Item)) (last : List Item)

namespace Item

/-! ## Languages -/

mutual

/-- The texts that an item stands for. -/
def language : Item → Language Char
  | .lit c => {[c]}
  | .star => {w | ∀ c ∈ w, c ≠ ':'}
  | .one => {w | ∃ c, c ≠ ':' ∧ w = [c]}
  | .cross => ⊤
  | .group others last => unionLanguage others + sequenceLanguage last

/-- The texts that a sequence stands for: a text of each item, one after another. -/
def sequenceLanguage : List Item → Language Char
  | [] => 1
  | item :: items => item.language * sequenceLanguage items

/-- The texts that some alternative stands for. -/
def unionLanguage : List (List Item) → Language Char
  | [] => 0
  | alternative :: others => sequenceLanguage alternative + unionLanguage others

end

theorem sequenceLanguage_append (items more : List Item) :
    sequenceLanguage (items ++ more) = sequenceLanguage items * sequenceLanguage more := by
  induction items with
  | nil => rw [List.nil_append, sequenceLanguage, one_mul]
  | cons item items ih =>
    rw [List.cons_append, sequenceLanguage, sequenceLanguage, ih, mul_assoc]

/-! ## Tokens -/

mutual

def tokens : Item → List Token
  | .lit c => [.lit c]
  | .star => [.star]
  | .one => [.one]
  | .cross => [.cross]
  | .group others last =>
    .opening :: (branchTokens others ++ (sequenceTokens last ++ [.closing]))

def sequenceTokens : List Item → List Token
  | [] => []
  | item :: items => item.tokens ++ sequenceTokens items

/-- Alternatives that are not the last, each with the bar behind it. -/
def branchTokens : List (List Item) → List Token
  | [] => []
  | alternative :: others => sequenceTokens alternative ++ .bar :: branchTokens others

end

theorem sequenceTokens_append (items more : List Item) :
    sequenceTokens (items ++ more) = sequenceTokens items ++ sequenceTokens more := by
  induction items with
  | nil => rfl
  | cons item items ih =>
    rw [List.cons_append, sequenceTokens, sequenceTokens, ih, List.append_assoc]

theorem sequenceTokens_concat (items : List Item) (item : Item) :
    sequenceTokens (items ++ [item]) = sequenceTokens items ++ item.tokens := by
  rw [sequenceTokens_append, sequenceTokens, sequenceTokens, List.append_nil]

theorem branchTokens_concat (others : List (List Item)) (alternative : List Item) :
    branchTokens (others ++ [alternative]) =
      branchTokens others ++ (sequenceTokens alternative ++ [.bar]) := by
  induction others with
  | nil => rfl
  | cons other others ih =>
    rw [List.cons_append, branchTokens, branchTokens, ih, List.append_assoc, List.cons_append]

/-! ## The language of an item's tokens -/

theorem language_star : Item.star.language = runOf inSegment := by
  ext w
  simp only [language, mem_runOf, inSegment, bne_iff_ne]
  rfl

theorem language_one : Item.one.language = oneOf inSegment := by
  ext w
  simp only [language, mem_oneOf, inSegment, bne_iff_ne]
  rfl

mutual

/-- Reading the tokens of an item appends the language of the item. -/
theorem read_tokens (item : Item) (l : Language Char) (groups : List OpenTexts) :
    item.tokens.foldl Texts.read (l, groups) = (l * item.language, groups) := by
  cases item with
  | lit c => rfl
  | star => rw [language_star]; rfl
  | one => rw [language_one]; rfl
  | cross => rfl
  | group others last =>
    rw [tokens, List.foldl_cons, List.foldl_append, List.foldl_append, Texts.read,
      read_branchTokens others, read_sequenceTokens last, List.foldl_cons, List.foldl_nil,
      Texts.read, language, zero_add, mul_add]

/-- Reading the tokens of a sequence appends the language of the sequence. -/
theorem read_sequenceTokens (items : List Item) (l : Language Char)
    (groups : List OpenTexts) :
    (sequenceTokens items).foldl Texts.read (l, groups) =
      (l * sequenceLanguage items, groups) := by
  cases items with
  | nil => rw [sequenceTokens, sequenceLanguage, mul_one, List.foldl_nil]
  | cons item items =>
    rw [sequenceTokens, List.foldl_append, read_tokens item, read_sequenceTokens items,
      sequenceLanguage, mul_assoc]

/-- Each alternative before the last continues the texts before the group, and adds
to what the group has reached. -/
theorem read_branchTokens (others : List (List Item)) (l reached : Language Char)
    (groups : List OpenTexts) :
    (branchTokens others).foldl Texts.read (l, ⟨l, reached⟩ :: groups) =
      (l, ⟨l, reached + l * unionLanguage others⟩ :: groups) := by
  cases others with
  | nil => rw [branchTokens, unionLanguage, mul_zero, add_zero, List.foldl_nil]
  | cons alternative others =>
    rw [branchTokens, List.foldl_append, List.foldl_cons, read_sequenceTokens alternative,
      Texts.read, read_branchTokens others, unionLanguage, mul_add, add_assoc]

end

/-- The tokens of a sequence account for exactly the texts of the sequence. -/
theorem language_sequenceTokens (items : List Item) :
    Glob.language (sequenceTokens items) = sequenceLanguage items := by
  rw [Glob.language, read_sequenceTokens, one_mul]

end Item

end Arbiter.Glob
