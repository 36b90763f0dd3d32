import Arbiter.Proofs.Glob.Size

/-!
# The grammar of expressions

An expression is written between two anchors as a sequence of items. The grammar here says
how each item is written, apart from any glob, so a text can be taken apart by it.

* `Item.WrittenAt`, `Item.SequenceAt`, `Item.AlternativesAt` and `Sentence`: the grammar.
* `Sentence.unique`: a text is the expression of one sequence of items at most.
* `sentence_expressionChars`: the expression of a glob is that of the items whose tokens
  the glob has.
* `InOrder` and `Sentence.inOrder`: in a sentence, groups are closed and nested, and meta
  characters stand where they have a meaning.
* `expression_eq_iff`: two globs have one expression exactly if they have the same tokens.
* `Pattern.exists_sentence_expression`: the expression of a glob says what the pattern does.
-/

namespace Arbiter.Glob

namespace Item

mutual

/-- An item is written at the front of a text, with the rest of the text behind it. -/
inductive WrittenAt : Item → List Char → List Char → Prop where
  | ordinary {c : Char} {rest : List Char} (ordinary : c ∉ metaChars) :
      WrittenAt (.lit c) (c :: rest) rest
  | escaped {c : Char} {rest : List Char} (mark : c ∈ metaChars) :
      WrittenAt (.lit c) ('\\' :: c :: rest) rest
  | cross {rest : List Char} : WrittenAt .cross ('.' :: '*' :: rest) rest
  | one {rest : List Char} : WrittenAt .one ('[' :: '^' :: ':' :: ']' :: rest) rest
  | star {rest : List Char} : WrittenAt .star ('[' :: '^' :: ':' :: ']' :: '*' :: rest) rest
  | group {others : List (List Item)} {last : List Item} {text rest : List Char}
      (alternatives : AlternativesAt others last text (')' :: rest)) :
      WrittenAt (.group others last) ('(' :: '?' :: ':' :: text) rest

/-- Items are written one after another. -/
inductive SequenceAt : List Item → List Char → List Char → Prop where
  | nil {rest : List Char} : SequenceAt [] rest rest
  | cons {item : Item} {items : List Item} {text behind rest : List Char}
      (first : WrittenAt item text behind) (later : SequenceAt items behind rest) :
      SequenceAt (item :: items) text rest

/-- Alternatives are written with a bar between them. -/
inductive AlternativesAt : List (List Item) → List Item → List Char → List Char → Prop where
  | last {items : List Item} {text rest : List Char} (only : SequenceAt items text rest) :
      AlternativesAt [] items text rest
  | bar {items last : List Item} {others : List (List Item)} {text behind rest : List Char}
      (first : SequenceAt items text ('|' :: behind))
      (later : AlternativesAt others last behind rest) :
      AlternativesAt (items :: others) last text rest

end

/-- The marks that end a sequence. -/
def stops : List Char := ['|', ')', '$']

def Stopped (text : List Char) : Prop :=
  ∃ c ∈ stops, text.head? = some c

theorem WrittenAt.head? {item : Item} {text rest : List Char}
    (written : WrittenAt item text rest) : ∃ c ∉ '*' :: stops, text.head? = some c := by
  cases written with
  | @ordinary c rest ordinary =>
    have marks : '*' :: stops ⊆ metaChars := by decide
    exact ⟨c, fun mark => ordinary (marks mark), rfl⟩
  | _ => exact ⟨_, by decide, rfl⟩

theorem WrittenAt.not_stopped {item : Item} {text rest : List Char}
    (written : WrittenAt item text rest) : ¬ Stopped text := by
  rintro ⟨c, stop, head⟩
  obtain ⟨d, other, first⟩ := written.head?
  obtain rfl : c = d := Option.some.inj (head.symm.trans first)
  exact other (List.mem_cons_of_mem '*' stop)

/-- A sequence up to a stop does not begin with a star. -/
theorem SequenceAt.head?_ne_star {items : List Item} {text rest : List Char}
    (written : SequenceAt items text rest) (stopped : Stopped rest) :
    text.head? ≠ some '*' := by
  intro star
  cases written with
  | nil =>
    obtain ⟨c, stop, head⟩ := stopped
    obtain rfl : c = '*' := Option.some.inj (head.symm.trans star)
    exact absurd stop (by decide)
  | cons first later =>
    obtain ⟨c, other, head⟩ := first.head?
    obtain rfl : c = '*' := Option.some.inj (head.symm.trans star)
    exact other List.mem_cons_self

mutual

/-- At most one item is written at the front of a text, if no star is left behind it. -/
theorem WrittenAt.unique (item : Item) {other : Item} {text rest behind : List Char}
    (first : WrittenAt item text rest) (second : WrittenAt other text behind)
    (here : rest.head? ≠ some '*') (there : behind.head? ≠ some '*') :
    item = other ∧ rest = behind := by
  cases first with
  | ordinary ordinary =>
    cases second with
    | ordinary => exact ⟨rfl, rfl⟩
    | _ => exact absurd (by decide) ordinary
  | escaped =>
    cases second with
    | ordinary ordinary => exact absurd (by decide) ordinary
    | escaped => exact ⟨rfl, rfl⟩
  | cross =>
    cases second with
    | ordinary ordinary => exact absurd (by decide) ordinary
    | cross => exact ⟨rfl, rfl⟩
  | one =>
    -- The text of this item is the front of another one's, but for the star behind it.
    cases second with
    | ordinary ordinary => exact absurd (by decide) ordinary
    | one => exact ⟨rfl, rfl⟩
    | star => exact absurd rfl here
  | star =>
    cases second with
    | ordinary ordinary => exact absurd (by decide) ordinary
    | one => exact absurd rfl there
    | star => exact ⟨rfl, rfl⟩
  | @group others last _ _ own =>
    cases second with
    | ordinary ordinary => exact absurd (by decide) ordinary
    | group alternatives =>
      obtain ⟨rfl, rfl, rfl⟩ := AlternativesAt.unique others last own alternatives
      exact ⟨rfl, rfl⟩
termination_by sizeOf item

/-- At most one sequence is written at the front of a text up to a stop. -/
theorem SequenceAt.unique (items : List Item) {others : List Item}
    {text rest behind : List Char} (first : SequenceAt items text rest)
    (second : SequenceAt others text behind) (here : Stopped rest) (there : Stopped behind) :
    items = others ∧ rest = behind := by
  cases items with
  | nil =>
    cases first with
    | nil =>
      cases second with
      | nil => exact ⟨rfl, rfl⟩
      | cons other _ => exact absurd here other.not_stopped
  | cons item items =>
    cases first with
    | cons item_at items_at =>
      cases second with
      | nil => exact absurd there item_at.not_stopped
      | cons other_at others_at =>
        obtain ⟨rfl, rfl⟩ := WrittenAt.unique item item_at other_at
          (items_at.head?_ne_star here) (others_at.head?_ne_star there)
        obtain ⟨rfl, rfl⟩ := SequenceAt.unique items items_at others_at here there
        exact ⟨rfl, rfl⟩
termination_by sizeOf items

/-- At most one list of alternatives is written at the front of a text up to the closing
parenthesis. -/
theorem AlternativesAt.unique (others : List (List Item)) (last : List Item)
    {others' : List (List Item)} {last' : List Item} {text rest behind : List Char}
    (first : AlternativesAt others last text (')' :: rest))
    (second : AlternativesAt others' last' text (')' :: behind)) :
    others = others' ∧ last = last' ∧ rest = behind := by
  have closed (rest : List Char) : Stopped (')' :: rest) := ⟨')', by decide, rfl⟩
  have divided (rest : List Char) : Stopped ('|' :: rest) := ⟨'|', by decide, rfl⟩
  cases others with
  | nil =>
    cases first with
    | last only =>
      cases second with
      | last other =>
        obtain ⟨rfl, same⟩ := SequenceAt.unique last only other (closed _) (closed _)
        exact ⟨rfl, rfl, (List.cons.inj same).2⟩
      | bar other _ =>
        have same := (SequenceAt.unique last only other (closed _) (divided _)).2
        exact absurd (List.cons.inj same).1 (by decide)
  | cons items others =>
    cases first with
    | bar items_at others_at =>
      cases second with
      | last other =>
        have same := (SequenceAt.unique items items_at other (divided _) (closed _)).2
        exact absurd (List.cons.inj same).1 (by decide)
      | bar items_at' others_at' =>
        obtain ⟨rfl, same⟩ :=
          SequenceAt.unique items items_at items_at' (divided _) (divided _)
        obtain rfl := (List.cons.inj same).2
        obtain ⟨rfl, rfl, rfl⟩ := AlternativesAt.unique others last others_at others_at'
        exact ⟨rfl, rfl, rfl⟩
termination_by sizeOf others + sizeOf last

end

mutual

/-- The tokens of an item are written as the item. -/
theorem writtenAt_tokens (item : Item) (rest : List Char) :
    WrittenAt item (item.tokens.flatMap Token.chars ++ rest) rest := by
  cases item with
  | lit c =>
    rw [tokens, List.flatMap_singleton, Token.chars]
    split
    · next mark => exact .escaped mark
    · next ordinary => exact .ordinary ordinary
  | star => exact .star
  | one => exact .one
  | cross => exact .cross
  | group others last =>
    have alternatives := alternativesAt_tokens others (sequenceAt_tokens last) (')' :: rest)
    simp only [List.flatMap_append, List.append_assoc] at alternatives
    simp only [tokens, List.flatMap_cons, List.flatMap_append, List.flatMap_nil, Token.chars,
      List.append_assoc, List.cons_append, List.nil_append]
    exact .group alternatives

theorem sequenceAt_tokens (items : List Item) (rest : List Char) :
    SequenceAt items ((sequenceTokens items).flatMap Token.chars ++ rest) rest := by
  cases items with
  | nil => exact .nil
  | cons item items =>
    rw [sequenceTokens, List.flatMap_append, List.append_assoc]
    exact .cons (writtenAt_tokens item _) (sequenceAt_tokens items rest)

theorem alternativesAt_tokens (others : List (List Item)) {last : List Item}
    (final : ∀ rest, SequenceAt last ((sequenceTokens last).flatMap Token.chars ++ rest) rest)
    (rest : List Char) :
    AlternativesAt others last
      ((branchTokens others ++ sequenceTokens last).flatMap Token.chars ++ rest) rest := by
  cases others with
  | nil => exact .last (final rest)
  | cons items others =>
    have later := alternativesAt_tokens others final rest
    simp only [branchTokens, List.flatMap_append, List.flatMap_cons, Token.chars,
      List.append_assoc, List.cons_append, List.nil_append] at later ⊢
    exact .bar (sequenceAt_tokens items _) later

end

end Item

/-! ## Whole expressions -/

/-- A text is an expression of items: they stand between the two anchors. -/
def Sentence (text : List Char) (items : List Item) : Prop :=
  ∃ body, text = '^' :: body ∧ Item.SequenceAt items body ['$']

/-- The grammar is unambiguous. -/
theorem Sentence.unique {text : List Char} {items others : List Item}
    (first : Sentence text items) (second : Sentence text others) : items = others := by
  obtain ⟨body, rfl, items_at⟩ := first
  obtain ⟨body', same, others_at⟩ := second
  obtain rfl := (List.cons.inj same).2
  have anchor : Item.Stopped ['$'] := ⟨'$', by decide, rfl⟩
  exact (Item.SequenceAt.unique items items_at others_at anchor anchor).1

/-- The expression of a glob is one of the items whose tokens the glob has. -/
theorem sentence_expressionChars {glob : List Char} {items : List Item}
    (read : tokens glob = Item.sequenceTokens items) : Sentence (expressionChars glob) items := by
  refine ⟨_, rfl, ?_⟩
  rw [read]
  exact Item.sequenceAt_tokens items ['$']

/-! ## The marks of an expression -/

/-- Inside of so many groups, the marks of an expression are in order up to the anchor at its
end: what is opened is closed, nothing is closed or divided outside of a group, a backslash
stands only before a meta character, and no other meta character stands for itself. -/
inductive InOrder : Nat → List Char → Prop where
  | anchor : InOrder 0 ['$']
  | ordinary {around : Nat} {c : Char} {rest : List Char} (ordinary : c ∉ metaChars)
      (later : InOrder around rest) : InOrder around (c :: rest)
  | escaped {around : Nat} {c : Char} {rest : List Char} (mark : c ∈ metaChars)
      (later : InOrder around rest) : InOrder around ('\\' :: c :: rest)
  | cross {around : Nat} {rest : List Char} (later : InOrder around rest) :
      InOrder around ('.' :: '*' :: rest)
  | one {around : Nat} {rest : List Char} (later : InOrder around rest) :
      InOrder around ('[' :: '^' :: ':' :: ']' :: rest)
  | star {around : Nat} {rest : List Char} (later : InOrder around rest) :
      InOrder around ('[' :: '^' :: ':' :: ']' :: '*' :: rest)
  | opening {around : Nat} {rest : List Char} (later : InOrder (around + 1) rest) :
      InOrder around ('(' :: '?' :: ':' :: rest)
  | bar {around : Nat} {rest : List Char} (later : InOrder (around + 1) rest) :
      InOrder (around + 1) ('|' :: rest)
  | closing {around : Nat} {rest : List Char} (later : InOrder around rest) :
      InOrder (around + 1) (')' :: rest)

namespace Item

mutual

/-- If the marks behind an item are in order, then so are those from its front. -/
theorem WrittenAt.inOrder {item : Item} {text rest : List Char} {around : Nat} :
    WrittenAt item text rest → InOrder around rest → InOrder around text
  | .ordinary ordinary, later => .ordinary ordinary later
  | .escaped mark, later => .escaped mark later
  | .cross, later => .cross later
  | .one, later => .one later
  | .star, later => .star later
  | .group alternatives, later => .opening (alternatives.inOrder (.closing later))

theorem SequenceAt.inOrder {items : List Item} {text rest : List Char} {around : Nat} :
    SequenceAt items text rest → InOrder around rest → InOrder around text
  | .nil, later => later
  | .cons first others, later => first.inOrder (others.inOrder later)

theorem AlternativesAt.inOrder {others : List (List Item)} {last : List Item}
    {text rest : List Char} {around : Nat} :
    AlternativesAt others last text rest → InOrder (around + 1) rest →
      InOrder (around + 1) text
  | .last only, later => only.inOrder later
  | .bar first others, later => first.inOrder (.bar (others.inOrder later))

end

end Item

/-- The marks of a sentence are in order. -/
theorem Sentence.inOrder {text : List Char} {items : List Item} (sentence : Sentence text items) :
    ∃ body, text = '^' :: body ∧ InOrder 0 body := by
  obtain ⟨body, rfl, items_at⟩ := sentence
  exact ⟨body, rfl, items_at.inOrder .anchor⟩

/-! ## What the expression of a glob says -/

/-- Every glob has the tokens of some items. -/
theorem exists_tokens_eq (glob : List Char) :
    ∃ items, tokens glob = Item.sequenceTokens items := by
  by_cases lone : glob = ['*']
  · exact ⟨[.cross], if_pos lone⟩
  · exact ⟨items glob, tokens_eq_sequenceTokens lone⟩

/-- An expression can be read back into the tokens that it was written from. -/
theorem expression_eq_iff {glob other : String} :
    expression glob = expression other ↔ tokens glob.toList = tokens other.toList := by
  rw [expression, expression, String.ofList_inj]
  constructor
  · intro same
    obtain ⟨items, read⟩ := exists_tokens_eq glob.toList
    obtain ⟨items', read'⟩ := exists_tokens_eq other.toList
    have sentence := sentence_expressionChars read
    rw [same] at sentence
    rw [read, read', sentence.unique (sentence_expressionChars read')]
  · intro same
    rw [expressionChars, expressionChars, same]

end Arbiter.Glob

namespace Arbiter.Pattern

open Glob

/-- **The written expression.** The expression of a glob is a sentence of the grammar, of one
sequence of items only, and its marks are in order. There is no such text for a pattern
exactly if these items are nested too deeply, or the program of the expression is too large;
otherwise the pattern accepts exactly the texts that the items stand for. -/
theorem exists_sentence_expression [SizeLimit] (glob : String) :
    ∃ items, Sentence (expression glob).toList items ∧
      (∀ others, Sentence (expression glob).toList others → others = items) ∧
      (∃ body, (expression glob).toList = '^' :: body ∧ InOrder 0 body) ∧
      (compile glob).expression? =
        (if Item.anchoredDepth items ≤ depthLimit ∧ fits (tokens glob.toList) then
          some (expression glob)
        else none) ∧
      (Item.anchoredDepth items ≤ depthLimit → fits (tokens glob.toList) → ∀ candidate,
        (compile glob).accepts candidate = true ↔
          candidate.toList ∈ Item.sequenceLanguage items) := by
  obtain ⟨items, read⟩ := exists_tokens_eq glob.toList
  have readable : ¬ Refused (tokens glob.toList) ↔
      Item.anchoredDepth items ≤ depthLimit ∧ fits (tokens glob.toList) := by
    rw [not_refused_iff, ← Item.depth_sequenceTokens, ← read]
  have sentence : Sentence (expression glob).toList items := by
    rw [expression, String.toList_ofList]
    exact sentence_expressionChars read
  refine ⟨items, sentence, fun others other => other.unique sentence, sentence.inOrder, ?_, ?_⟩
  · rw [compile, expression?]
    by_cases usable : Item.anchoredDepth items ≤ depthLimit ∧ fits (tokens glob.toList)
    · rw [if_pos usable, if_neg (readable.mpr usable)]
    · rw [if_neg usable, if_pos (not_imp_comm.mp readable.mp usable)]
  · intro shallow small candidate
    rw [accepts_compile_iff_mem_language (readable.mpr ⟨shallow, small⟩), read,
      Item.language_sequenceTokens]

/-- Forty thousand question marks are not nested too deeply, but their program is too large. So
there is no expression, and no other text is accepted. -/
theorem expression?_of_many_question_marks :
    let glob := repeated '?' 40000
    depth (tokens glob.toList) ≤ depthLimit ∧ (compile glob).expression? = none ∧
      (compile glob).accepts (repeated 'a' 40000) = false := by
  intro glob
  have simple : Simple glob.toList := simple_repeated (by decide) 40000
  have refused : Refused (tokens glob.toList) := by
    apply refused_of_sizeBound_lt
    rw [estimatedSize_repeated (by decide)]
    decide
  exact ⟨depth_le_of_simple simple, expression?_of_refused refused,
    accepts_eq_false_of_refused refused (repeated_ne (by decide) 39999)⟩

end Arbiter.Pattern
