import Arbiter.Pattern
import Arbiter.Proofs.Glob.Item
import Arbiter.Version

/-!
# Reading a glob as items

A glob is read from left to right into a sequence of items. Reading keeps the
items of the sequence that it stands in, and the groups that are open around it.

* `items`: the items of a glob.
* `tokens_eq_sequenceTokens`: the tokens of a glob are those of its items.
* `Pattern.accepts_compile_iff_mem_items`: a glob accepts the texts that its items stand for.
-/

namespace Arbiter.Glob

/-- A group that is still open. -/
structure OpenItems where
  /-- The items of the surrounding sequence, up to the group. -/
  before : List Item
  ended : List (List Item)

/-- What has been read of a glob. -/
structure Reading where
  items : List Item
  /-- The groups that are open around it, innermost first. -/
  groups : List OpenItems

namespace Reading

def start : Reading := ⟨[], []⟩

def add (r : Reading) (item : Item) : Reading :=
  ⟨r.items ++ [item], r.groups⟩

def openGroup (r : Reading) : Reading :=
  ⟨[], ⟨r.items, []⟩ :: r.groups⟩

/-- An alternative ends, and the next one begins. Outside of any group a comma is
a literal. -/
def divide : Reading → Reading
  | ⟨items, []⟩ => ⟨items ++ [.lit ','], []⟩
  | ⟨items, g :: groups⟩ => ⟨[], ⟨g.before, g.ended ++ [items]⟩ :: groups⟩

/-- A group ends. Outside of any group a closing brace is a literal. -/
def close : Reading → Reading
  | ⟨items, []⟩ => ⟨items ++ [.lit '}'], []⟩
  | ⟨items, g :: groups⟩ => ⟨g.before ++ [.group g.ended items], groups⟩

/-- Reads a character behind a backslash: it stands for itself, but a colon before
two stars still crosses segments. -/
def escaped (r : Reading) (c : Char) (ahead : List Char) : Reading :=
  if c = ':' ∧ ['*', '*'] <+: ahead then r.add .cross else r.add (.lit c)

def plain (r : Reading) (c : Char) (ahead : List Char) : Reading :=
  if c = ':' ∧ ['*', '*'] <+: ahead then r.add .cross
  else match c with
    | '*' => r.add .star
    | '?' => r.add .one
    | '{' => r.openGroup
    | ',' => r.divide
    | '}' => r.close
    | c => r.add (.lit c)

/-- Reads a text. A backslash with nothing behind it is nothing. -/
def read (r : Reading) : List Char → Reading
  | [] => r
  | ['\\'] => r
  | '\\' :: c :: ahead => (r.escaped c ahead).read ahead
  | c :: ahead => (r.plain c ahead).read ahead

/-- The items of everything that has been read, with the open groups closed. -/
def finish (items : List Item) : List OpenItems → List Item
  | [] => items
  | g :: groups => finish (g.before ++ [.group g.ended items]) groups

end Reading

/-- The items of a glob. Groups that are open at its end are closed there. -/
def items (glob : List Char) : List Item :=
  let r := Reading.start.read glob
  Reading.finish r.items r.groups

namespace Reading

/-! ## The tokens of what has been read -/

/-- The tokens up to the place where a group is being read. -/
def outerTokens : List OpenItems → List Token
  | [] => []
  | g :: groups =>
    outerTokens groups ++
      (Item.sequenceTokens g.before ++ .opening :: Item.branchTokens g.ended)

def tokens (r : Reading) : List Token :=
  outerTokens r.groups ++ Item.sequenceTokens r.items

theorem tokens_add (r : Reading) (item : Item) :
    (r.add item).tokens = r.tokens ++ item.tokens := by
  rw [tokens, add, Item.sequenceTokens_concat, tokens, List.append_assoc]

theorem tokens_openGroup (r : Reading) : r.openGroup.tokens = r.tokens ++ [.opening] := by
  simp only [tokens, openGroup, outerTokens, Item.branchTokens, Item.sequenceTokens,
    List.append_assoc, List.append_nil]

theorem tokens_divide (items : List Item) (g : OpenItems) (groups : List OpenItems) :
    (divide ⟨items, g :: groups⟩).tokens =
      tokens ⟨items, g :: groups⟩ ++ [.bar] := by
  simp only [tokens, divide, outerTokens, Item.branchTokens_concat, Item.sequenceTokens,
    List.append_assoc, List.append_nil, List.cons_append]

theorem tokens_close (items : List Item) (g : OpenItems) (groups : List OpenItems) :
    (close ⟨items, g :: groups⟩).tokens =
      tokens ⟨items, g :: groups⟩ ++ [.closing] := by
  simp only [tokens, close, outerTokens, Item.sequenceTokens_concat, Item.tokens,
    List.append_assoc, List.cons_append]

/-- Closing the open groups takes one closing token for each of them. -/
theorem sequenceTokens_finish (items : List Item) (groups : List OpenItems) :
    Item.sequenceTokens (finish items groups) =
      tokens ⟨items, groups⟩ ++ List.replicate groups.length .closing := by
  induction groups generalizing items with
  | nil => rw [finish, tokens, outerTokens, List.nil_append, List.length_nil,
      List.replicate_zero, List.append_nil]
  | cons g groups ih =>
    have closed := tokens_close items g groups
    rw [close] at closed
    rw [finish, ih, closed, List.append_assoc, List.length_cons, List.replicate_succ,
      List.singleton_append]

/-! ## Reading and scanning keep in step -/

/-- The cursor that a scan has where reading stands. -/
def cursor (r : Reading) : Cursor := ⟨false, r.groups.length⟩

theorem startsWithStars_iff (ahead : List Char) :
    startsWithStars ahead = true ↔ ['*', '*'] <+: ahead := by
  unfold startsWithStars
  split
  · simp
  · next other =>
    refine iff_of_false Bool.false_ne_true ?_
    rintro ⟨rest, rfl⟩
    exact other rest rfl

/-- A colon before two stars crosses segments, behind a backslash or not. -/
theorem read_crossing (escaping : Bool) (r : Reading) (ahead : List Char)
    (stars : ['*', '*'] <+: ahead) :
    Cursor.read ⟨escaping, r.groups.length⟩ ':' ahead =
      (some .cross, (r.add .cross).cursor) := by
  unfold Cursor.read
  rw [if_pos ⟨rfl, (startsWithStars_iff ahead).mpr stars⟩]
  rfl

/-- A character behind a backslash gives one token, which reading adds as well. -/
theorem read_escaped (r : Reading) (c : Char) (ahead : List Char) :
    ∃ token, Cursor.read ⟨true, r.groups.length⟩ c ahead =
        (some token, (r.escaped c ahead).cursor) ∧
      (r.escaped c ahead).tokens = r.tokens ++ [token] := by
  unfold escaped
  split
  · next crossing =>
    obtain ⟨rfl, stars⟩ := crossing
    exact ⟨.cross, read_crossing true r ahead stars, tokens_add r .cross⟩
  · next literal =>
    refine ⟨.lit c, ?_, tokens_add r (.lit c)⟩
    unfold Cursor.read
    rw [if_neg (by rwa [startsWithStars_iff]), if_pos rfl]
    rfl

/-- A character that no backslash precedes, other than a backslash, gives one token,
which reading takes in as well. -/
theorem read_plain (r : Reading) (c : Char) (ahead : List Char) (unescaped : c ≠ '\\') :
    ∃ token, r.cursor.read c ahead = (some token, (r.plain c ahead).cursor) ∧
      (r.plain c ahead).tokens = r.tokens ++ [token] := by
  unfold plain
  split
  · next crossing =>
    obtain ⟨rfl, stars⟩ := crossing
    exact ⟨.cross, read_crossing false r ahead stars, tokens_add r .cross⟩
  · next here =>
    rcases r with ⟨items, groups⟩
    unfold Cursor.read cursor
    rw [if_neg (by rwa [startsWithStars_iff]), if_neg Bool.false_ne_true]
    split
    · exact ⟨.star, rfl, tokens_add _ .star⟩
    · exact ⟨.one, rfl, tokens_add _ .one⟩
    · exact absurd rfl unescaped
    · exact ⟨.opening, rfl, tokens_openGroup _⟩
    · rcases groups with _ | ⟨g, groups⟩
      · exact ⟨.lit '}', rfl, tokens_add ⟨items, []⟩ (.lit '}')⟩
      · exact ⟨.closing, rfl, tokens_close items g groups⟩
    · rcases groups with _ | ⟨g, groups⟩
      · exact ⟨.lit ',', rfl, tokens_add ⟨items, []⟩ (.lit ',')⟩
      · exact ⟨.bar, rfl, tokens_divide items g groups⟩
    · -- Both readers treat every other character alike, and it is none of the marks.
      refine ⟨.lit c, ?_, ?_⟩ <;> split <;> try contradiction
      · rfl
      · exact tokens_add _ (.lit c)

/-- A character that is read on its own is no backslash: those are read as the last character
of a text, or together with the one behind them. -/
theorem ne_backslash {c : Char} {ahead : List Char} (lone : c = '\\' → ahead = [] → False)
    (pair : ∀ d rest, c = '\\' → ahead = d :: rest → False) : c ≠ '\\' := by
  intro backslash
  rcases ahead with _ | ⟨d, rest⟩
  · exact lone backslash rfl
  · exact pair d rest backslash rfl

theorem read_cons {c : Char} (plain : c ≠ '\\') (r : Reading) (ahead : List Char) :
    r.read (c :: ahead) = (r.plain c ahead).read ahead := by
  rw [read]
  · rintro rfl
    exact absurd rfl plain
  · rintro d rest rfl
    exact absurd rfl plain

theorem scan_cons_of_read {s next : Cursor} {c : Char} {ahead : List Char}
    {token : Option Token} (step : s.read c ahead = (token, next)) :
    scan s (c :: ahead) = (token.toList ++ (scan next ahead).1, (scan next ahead).2) := by
  rw [scan, step]

/-- Scanning gives the tokens that reading takes in, and ends with as many groups open. -/
theorem scan_cursor (r : Reading) (text : List Char) :
    (r.read text).tokens = r.tokens ++ (scan r.cursor text).1 ∧
      (scan r.cursor text).2.depth = (r.read text).groups.length := by
  fun_induction read r text with
  | case1 r => exact ⟨(List.append_nil _).symm, rfl⟩
  | case2 r => exact ⟨(List.append_nil _).symm, rfl⟩
  | case3 r c ahead ih =>
    obtain ⟨token, step, taken⟩ := read_escaped r c ahead
    have pending : r.cursor.read '\\' (c :: ahead) = (none, ⟨true, r.groups.length⟩) := rfl
    rw [scan_cons_of_read pending, scan_cons_of_read step]
    rw [taken, List.append_assoc] at ih
    exact ih
  | case4 r c ahead lone pair ih =>
    have unescaped : c ≠ '\\' := ne_backslash lone pair
    obtain ⟨token, step, taken⟩ := read_plain r c ahead unescaped
    rw [scan_cons_of_read step]
    rw [taken, List.append_assoc] at ih
    exact ih

end Reading

/-- What a scan finds, with the open groups closed, are the tokens of the items. -/
theorem scan_start_closed (text : List Char) :
    (scan .start text).1 ++ List.replicate (scan .start text).2.depth .closing =
      Item.sequenceTokens (items text) := by
  have ⟨taken, depth⟩ := Reading.scan_cursor .start text
  rw [items, Reading.sequenceTokens_finish, taken, ← depth]
  rfl

theorem scan_start_of_closed {text : List Char} (closed : (scan .start text).2.depth = 0) :
    (scan .start text).1 = Item.sequenceTokens (items text) := by
  have found := scan_start_closed text
  rw [closed, List.replicate_zero, List.append_nil] at found
  exact found

/-- A glob other than a lone star has the tokens that a scan finds, and a closing one for each
group that is open at its end. -/
theorem tokens_of_several {glob : List Char} (several : glob ≠ ['*']) :
    tokens glob =
      (scan .start glob).1 ++ List.replicate (scan .start glob).2.depth .closing :=
  if_neg several

/-- The tokens of a glob are those of its items, unless it is a lone star. -/
theorem tokens_eq_sequenceTokens {glob : List Char} (several : glob ≠ ['*']) :
    tokens glob = Item.sequenceTokens (items glob) := by
  rw [tokens_of_several several]
  exact scan_start_closed glob

example : items "a\\\x7b\x7bb,:**,".toList =
    [.lit 'a', .lit '{', .group [[.lit 'b'], [.cross, .star, .star]] []] := rfl

theorem language_tokens {glob : List Char} (several : glob ≠ ['*']) :
    language (tokens glob) = Item.sequenceLanguage (items glob) := by
  rw [tokens_eq_sequenceTokens several, Item.language_sequenceTokens]

theorem language_tokens_star : language (tokens ['*']) = ⊤ := by
  rw [tokens, if_pos rfl]
  exact one_mul ⊤

/-- As an item, a lone star stays within a segment. -/
theorem sequenceLanguage_items_star :
    Item.sequenceLanguage (items ['*']) = Item.star.language :=
  mul_one Item.star.language

end Arbiter.Glob

namespace Arbiter.Pattern

section

variable [Glob.SizeLimit]

/-- A pattern whose glob is not refused accepts what the glob's tokens account for. -/
theorem accepts_compile_iff_mem_language {glob : String}
    (readable : ¬ Glob.Refused (Glob.tokens glob.toList)) (candidate : String) :
    (compile glob).accepts candidate = true ↔
      candidate.toList ∈ Glob.language (Glob.tokens glob.toList) := by
  rw [accepts, compile, if_neg readable]
  exact Glob.accepts_iff_mem_language _ _

/-- A pattern whose glob is refused accepts the glob itself and nothing else. -/
theorem accepts_compile_iff_eq {glob : String} (refused : Glob.Refused (Glob.tokens glob.toList))
    (candidate : String) : (compile glob).accepts candidate = true ↔ candidate = glob := by
  rw [accepts, compile, if_pos refused, beq_iff_eq]
  exact eq_comm

theorem accepts_eq_false_of_refused {glob candidate : String}
    (refused : Glob.Refused (Glob.tokens glob.toList)) (other : candidate ≠ glob) :
    (compile glob).accepts candidate = false := by
  rw [Bool.eq_false_iff, Ne, accepts_compile_iff_eq refused]
  exact other

/-- A pattern whose glob is refused has no expression. -/
theorem expression?_of_refused {glob : String}
    (refused : Glob.Refused (Glob.tokens glob.toList)) : (compile glob).expression? = none := by
  rw [compile, expression?, if_pos refused]

/-- A lone star accepts every text. The engine has room for its expression. -/
theorem accepts_lone_star (candidate : String) : (compile "*").accepts candidate = true := by
  have star : "*".toList = ['*'] := rfl
  have readable : ¬ Glob.Refused (Glob.tokens "*".toList) :=
    Glob.not_refused_iff.mpr ⟨by decide, Glob.SizeLimit.fits_cross⟩
  rw [accepts_compile_iff_mem_language readable, star, Glob.language_tokens_star]
  trivial

/-- **The meaning of a glob.** A lone star accepts every text. Any other glob whose
expression is not refused, which takes a depth of at most 250, accepts exactly the texts that
its items stand for. -/
theorem accepts_compile_iff_mem_items (glob candidate : String) :
    (glob = "*" → (compile glob).accepts candidate = true) ∧
      (glob ≠ "*" → ¬ Glob.Refused (Glob.tokens glob.toList) →
        ((compile glob).accepts candidate = true ↔
          candidate.toList ∈ Glob.Item.sequenceLanguage (Glob.items glob.toList))) := by
  constructor
  · rintro rfl
    exact accepts_lone_star candidate
  · intro several readable
    have list : glob.toList ≠ ['*'] := fun same => several (String.toList_inj.mp same)
    rw [accepts_compile_iff_mem_language readable, Glob.language_tokens list]

end

/-- Two nested groups, neither of which is closed, and a crossing in the inner one. -/
theorem mem_items_of_open_groups :
    (compile "*").accepts "a:b" = true ∧
      "ac:x:y".toList ∈ Glob.Item.sequenceLanguage
        [.lit 'a', .group [[.lit 'b']] [.group [] [.lit 'c', .cross, .star, .star]]] :=
  ⟨(accepts_compile_iff_mem_items "*" "a:b").1 rfl,
    ((accepts_compile_iff_mem_items "a\x7bb,\x7bc:**" "ac:x:y").2 (by decide) (by decide)).mp
      (by decide)⟩

end Arbiter.Pattern
