import Arbiter.Glob.Token

/-!
# Matching by marks

A candidate is matched by marking positions in it. Position `i` is marked when
the tokens read so far can account for exactly the first `i` characters, so one
pass over the tokens follows every way of matching at once, and the work is at
most the number of tokens times the length of the candidate.

* `Marks.advance`: the marks after one more wildcard or literal.
* `accepts`: whether the tokens of a glob account for the whole candidate.
-/

namespace Arbiter.Glob

/-- A mark for every position in a candidate, from before its first character to
after its last. -/
abbrev Marks := List Bool

namespace Marks

def start (candidate : List Char) : Marks :=
  true :: List.replicate candidate.length false

def blank (m : Marks) : Marks :=
  m.map fun _ => false

def union (m n : Marks) : Marks :=
  List.zipWith (· || ·) m n

/-- Every mark moves over one character of the class, or is lost. -/
def shift (inClass : Char → Bool) (m : Marks) (candidate : List Char) : Marks :=
  false :: List.zipWith (fun mark c => mark && inClass c) m candidate

/-- Every mark spreads to the right over characters of the class. The flag says
whether a mark arrives from the left. -/
def spread (inClass : Char → Bool) (arriving : Bool) : Marks → List Char → Marks
  | mark :: marks, c :: candidate =>
    (arriving || mark) :: spread inClass ((arriving || mark) && inClass c) marks candidate
  | mark :: _, [] => [arriving || mark]
  | [], _ => []

/-- Whether the position after the last character is marked. -/
def final (m : Marks) : Bool :=
  m.getLast?.getD false

end Marks

/-- A group whose branches are being read. -/
structure OpenGroup where
  /-- The marks before the group: where each of its branches starts. -/
  before : Marks
  /-- The positions reached by the branches that have ended. -/
  reached : Marks

def inSegment (c : Char) : Bool :=
  c != ':'

/-- Reads one token: the marks, and the groups that are open, innermost first. -/
def follow (candidate : List Char) : Marks × List OpenGroup → Token → Marks × List OpenGroup
  | (m, groups), .lit c => (m.shift (· == c) candidate, groups)
  | (m, groups), .one => (m.shift inSegment candidate, groups)
  | (m, groups), .star => (m.spread inSegment false candidate, groups)
  | (m, groups), .cross => (m.spread (fun _ => true) false candidate, groups)
  | (m, groups), .opening => (m, ⟨m, m.blank⟩ :: groups)
  | (m, g :: groups), .bar => (g.before, ⟨g.before, g.reached.union m⟩ :: groups)
  | (m, g :: groups), .closing => (g.reached.union m, groups)
  | (m, []), _ => (m, [])

/-- Whether the tokens account for the whole candidate. -/
def accepts (tokens : List Token) (candidate : List Char) : Bool :=
  (tokens.foldl (follow candidate) (Marks.start candidate, [])).1.final

end Arbiter.Glob
