import Arbiter.Proofs.Glob.Itself
import Arbiter.Version

/-!
# The size of simple globs

A text without stars, backslashes, braces and commas is read character by character, wherever
it stands. How large its program is, by the estimate, can then be read off the text. It is not
nested at all, so a long one shows what the limit on the size does on its own.

* `Simple`: a text of this kind.
* `scan_simple` and `tokens_simple`: its tokens.
* `fits_iff` and `refused_of_sizeBound_lt`: which programs the estimate allows.
* `estimatedSize_tokens_append` and `estimatedSize_repeated`: the estimate adds up.
* `longText` and `longGlob`: a text and a glob that are small enough, but not together.
-/

namespace Arbiter.Glob

/-! ## Tokens of simple texts -/

/-- A text whose characters are read one by one, in a group or not. -/
def Simple (text : List Char) : Prop :=
  ∀ c ∈ text, c ∉ ['*', '\\', '{', '}', ',']

theorem Simple.replicate {c : Char} (simple : c ∉ ['*', '\\', '{', '}', ',']) (n : Nat) :
    Simple (List.replicate n c) := by
  intro d member
  rw [List.eq_of_mem_replicate member]
  exact simple

theorem Simple.append {text rest : List Char} (first : Simple text) (second : Simple rest) :
    Simple (text ++ rest) :=
  List.forall_mem_append.mpr ⟨first, second⟩

/-- What a character of a simple text is read into. -/
def Token.ofChar (c : Char) : Token :=
  if c = '?' then .one else .lit c

theorem Cursor.read_simple {c : Char} {ahead : List Char}
    (simple : c ∉ ['*', '\\', '{', '}', ',']) (head : ahead.head? ≠ some '*') :
    Cursor.start.read c ahead = (some (.ofChar c), .start) := by
  have bounded : ¬ (c = ':' ∧ startsWithStars ahead = true) := by
    rintro ⟨-, stars⟩
    obtain ⟨rest, begins⟩ := (Reading.startsWithStars_iff ahead).mp stars
    rw [← begins] at head
    exact head rfl
  simp only [List.mem_cons, List.not_mem_nil, or_false, not_or] at simple
  obtain ⟨star, backslash, opening, closing, comma⟩ := simple
  rw [Cursor.start]
  unfold Cursor.read Token.ofChar
  rw [if_neg bounded, if_neg Bool.false_ne_true]
  split <;> simp_all

section

variable {text : List Char} (simple : Simple text)

include simple

theorem head?_ne_star : text.head? ≠ some '*' := by
  cases text with
  | nil => exact nofun
  | cons c text =>
    intro star
    obtain rfl : c = '*' := Option.some.inj star
    exact simple '*' List.mem_cons_self (by decide)

/-- No crossing ends in a simple text. -/
theorem apart_of_simple (front : List Char) : Apart front text :=
  .of_head_ne (head?_ne_star simple) front

theorem ne_lone_star_of_simple : text ≠ ['*'] := by
  rintro rfl
  exact simple '*' List.mem_cons_self (by decide)

/-- A simple text is scanned into one token for each character, and leaves nothing open
behind it. -/
theorem scan_simple : scan .start text = (text.map Token.ofChar, .start) := by
  induction text with
  | nil => rfl
  | cons c text ih =>
    obtain ⟨here, later⟩ := List.forall_mem_cons.mp simple
    have step := Cursor.read_simple here (head?_ne_star later)
    rw [Reading.scan_cons_of_read step, ih later]
    rfl

theorem tokens_simple : tokens text = text.map Token.ofChar := by
  rw [tokens_of_several (ne_lone_star_of_simple simple), scan_simple simple]
  exact List.append_nil _

theorem selfContained_simple : SelfContained .start text := by
  induction text with
  | nil => rfl
  | cons c text ih =>
    obtain ⟨here, later⟩ := List.forall_mem_cons.mp simple
    have step := Cursor.read_simple here (head?_ne_star later)
    refine ⟨fun ends => ?_, ?_⟩
    · rcases ends.2 with comma | closing
      · exact absurd (by rw [comma]; decide) here
      · exact absurd (by rw [closing]; decide) here
    · rw [step]
      exact ih later

theorem flat_of_simple : '{' ∉ unescaped text :=
  fun brace => simple '{' (unescaped_subset text brace) (by decide)

theorem depth_le_of_simple : depth (tokens text) ≤ depthLimit :=
  depth_le_of_flat (flat_of_simple simple)

end

/-! ## The estimate -/

theorem fits_iff {tokens : List Token} : fits tokens ↔ estimatedSize tokens ≤ sizeBound :=
  decide_eq_true_iff

theorem refused_of_sizeBound_lt {tokens : List Token} (large : sizeBound < estimatedSize tokens) :
    Refused tokens :=
  .inr fun small => Nat.not_le.mpr large (fits_iff.mp small)

theorem not_refused_of_simple {text : List Char} (simple : Simple text)
    (small : estimatedSize (tokens text) ≤ sizeBound) : ¬ Refused (tokens text) :=
  not_refused_iff.mpr ⟨depth_le_of_simple simple, fits_iff.mpr small⟩

theorem estimatedSize_append (tokens others : List Token) :
    estimatedSize (tokens ++ others) = estimatedSize tokens + estimatedSize others := by
  induction tokens with
  | nil => exact (Nat.zero_add _).symm
  | cons token tokens ih => rw [List.cons_append, estimatedSize, estimatedSize, ih, Nat.add_assoc]

/-! ## Long texts -/

theorem ne_star_of_simple {text : String} (simple : Simple text.toList) : text ≠ "*" :=
  fun lone => ne_lone_star_of_simple simple (congrArg String.toList lone)

section

variable {text rest : String} (first : Simple text.toList) (second : Simple rest.toList)

include first second

theorem simple_append : Simple (text ++ rest).toList := by
  rw [String.toList_append]
  exact first.append second

/-- Simple texts behind one another take what they take together. -/
theorem estimatedSize_tokens_append :
    estimatedSize (tokens (text ++ rest).toList) =
      estimatedSize (tokens text.toList) + estimatedSize (tokens rest.toList) := by
  rw [tokens_simple (simple_append first second), String.toList_append, List.map_append,
    estimatedSize_append, tokens_simple first, tokens_simple second]

end

/-- Two texts are apart from each other if their first characters are. -/
theorem singleton_append_ne {c d : Char} (other : c ≠ d) (text rest : String) :
    String.singleton c ++ text ≠ String.singleton d ++ rest := by
  intro same
  have lists := congrArg String.toList same
  rw [String.toList_append, String.toList_append, String.toList_singleton,
    String.toList_singleton] at lists
  exact other (List.cons.inj lists).1

theorem notMem_singleton_append {c d : Char} (other : d ≠ c) {text : String}
    (missing : d ∉ text.toList) : d ∉ (String.singleton c ++ text).toList := by
  rw [String.toList_append, String.toList_singleton, List.singleton_append, List.mem_cons, not_or]
  exact ⟨other, missing⟩

/-- A text of one character again and again. -/
def repeated (c : Char) (n : Nat) : String :=
  String.ofList (List.replicate n c)

theorem toList_repeated (c : Char) (n : Nat) : (repeated c n).toList = List.replicate n c :=
  String.toList_ofList

theorem repeated_ne {c d : Char} (other : c ≠ d) (n : Nat) :
    repeated c (n + 1) ≠ repeated d (n + 1) := by
  intro same
  have lists := congrArg String.toList same
  rw [toList_repeated, toList_repeated] at lists
  exact other (List.cons.inj lists).1

section

variable {c : Char} (simple : c ∉ ['*', '\\', '{', '}', ',']) (n : Nat)

include simple

theorem simple_repeated : Simple (repeated c n).toList := by
  rw [toList_repeated]
  exact .replicate simple n

/-- A character again and again takes as often what it takes once. -/
theorem estimatedSize_repeated :
    estimatedSize (tokens (repeated c n).toList) = n * (Token.ofChar c).estimatedSize := by
  rw [tokens_simple (simple_repeated simple n), toList_repeated, List.map_replicate]
  induction n with
  | zero => exact (Nat.zero_mul _).symm
  | succ n ih => rw [List.replicate_succ, estimatedSize, ih, Nat.add_comm, Nat.succ_mul]

end

/-- Sixty thousand characters of four bytes each. They take three quarters of the bound. -/
def longText : String :=
  repeated '😀' 60000

/-- A long text with a question mark in front. -/
def longGlob : String :=
  String.singleton '?' ++ longText

/-- A name that this glob accepts. -/
def longName : String :=
  String.singleton 'a' ++ longText

theorem simple_longText : Simple longText.toList :=
  simple_repeated (by decide) 60000

theorem estimatedSize_longText : estimatedSize (tokens longText.toList) = 7680000 :=
  estimatedSize_repeated (by decide) 60000

theorem not_refused_longText : ¬ Refused (tokens longText.toList) := by
  apply not_refused_of_simple simple_longText
  rw [estimatedSize_longText]
  decide

theorem notMem_longText {c : Char} (other : c ≠ '😀') : c ∉ longText.toList := by
  rw [longText, toList_repeated]
  exact fun member => other (List.eq_of_mem_replicate member)

theorem simple_singleton {c : Char} (simple : c ∉ ['*', '\\', '{', '}', ',']) :
    Simple (String.singleton c).toList := by
  rw [String.toList_singleton]
  exact List.forall_mem_singleton.mpr simple

theorem simple_question_mark : Simple (String.singleton '?').toList :=
  simple_singleton (by decide)

theorem simple_longGlob : Simple longGlob.toList :=
  simple_append simple_question_mark simple_longText

theorem estimatedSize_longGlob : estimatedSize (tokens longGlob.toList) = 7681024 := by
  rw [longGlob, estimatedSize_tokens_append simple_question_mark simple_longText,
    estimatedSize_longText]
  rfl

theorem not_refused_longGlob : ¬ Refused (tokens longGlob.toList) := by
  apply not_refused_of_simple simple_longGlob
  rw [estimatedSize_longGlob]
  decide

/-- The name is the glob with a character in the place of the question mark. -/
theorem fill_longGlob : String.ofList (fill 'a' longGlob.toList) = longName := by
  have kept := fill_eq_self (notMem_longText (c := '?') (by decide)) 'a'
  have glob : longGlob.toList = ['?'] ++ longText.toList := String.toList_append
  have name : longName.toList = ['a'] ++ longText.toList := String.toList_append
  have first : fill 'a' ['?'] = ['a'] := rfl
  rw [← String.toList_inj, String.toList_ofList, glob, name, fill, List.map_append, ← fill,
    ← fill, first, kept]

end Arbiter.Glob

namespace Arbiter.Pattern

open Glob

theorem accepts_longText : (compile longText).accepts longText = true := by
  have brace : '{' ∉ longText.toList := notMem_longText (by decide)
  have backslash : '\\' ∉ longText.toList := notMem_longText (by decide)
  exact accepts_itself brace backslash

theorem accepts_longGlob : (compile longGlob).accepts longName = true := by
  have brace : '{' ∉ longGlob.toList := fun member => simple_longGlob _ member (by decide)
  have backslash : '\\' ∉ longGlob.toList := fun member => simple_longGlob _ member (by decide)
  have inside : 'a' ≠ ':' := by decide
  rw [← fill_longGlob]
  exact accepts_fill brace backslash (not_refused_iff.mp not_refused_longGlob).2 inside

end Arbiter.Pattern
