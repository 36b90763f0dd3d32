import Arbiter.Glob.Token

/-!
# Refused expressions

The regular expression engine refuses an expression on two grounds. It is nested too deeply,
or the program that the engine makes of it is too large.

The depth of an expression counts one for every group and repetition around a part, and one
for every sequence or alternation of two parts or more; a sequence or alternation of a single
part counts as that part. How large a program is, the engine alone can say, so this is left
open.

* `depth`: the nesting depth of the expression of a list of tokens.
* `SizeLimit`: which programs are small enough.
* `Refused`: the depth is above `depthLimit`, or the program is too large.
-/

namespace Arbiter.Glob

/-- The depth of a sequence or alternation, from the number of its parts and the
depth of the deepest: one level more, unless there is nothing to join. -/
def joinedDepth (parts deepest : Nat) : Nat :=
  if parts ≤ 1 then deepest else deepest + 1

/-- What is known of a group, or of the whole expression, while it is read. -/
structure Level where
  /-- The number of items in the branch being read. -/
  items : Nat
  /-- The depth of the deepest of them. -/
  deepestItem : Nat
  /-- The number of branches that have ended. -/
  branches : Nat
  /-- The depth of the deepest of them. -/
  deepestBranch : Nat

def Level.empty : Level := ⟨0, 0, 0, 0⟩

/-- The whole expression has two items from the start: its two anchors. -/
def Level.anchored : Level := ⟨2, 0, 0, 0⟩

def Level.addItem (l : Level) (depth : Nat) : Level :=
  { l with items := l.items + 1, deepestItem := max l.deepestItem depth }

def Level.endBranch (l : Level) : Level :=
  ⟨0, 0, l.branches + 1, max l.deepestBranch (joinedDepth l.items l.deepestItem)⟩

/-- The depth of all branches together, the one being read included. -/
def Level.depth (l : Level) : Nat :=
  joinedDepth l.endBranch.branches l.endBranch.deepestBranch

/-- Reads one token: the level being read, and the levels around it, innermost
first. -/
def Level.read : Level × List Level → Token → Level × List Level
  | (l, outer), .lit _ => (l.addItem 0, outer)
  | (l, outer), .one => (l.addItem 1, outer)
  | (l, outer), .star => (l.addItem 2, outer)
  | (l, outer), .cross => (l.addItem 1, outer)
  | (l, outer), .opening => (.empty, l :: outer)
  | (l, outer), .bar => (l.endBranch, outer)
  | (l, []), .closing => (l, [])
  | (l, around :: outer), .closing => (around.addItem (l.depth + 1), outer)

/-- The nesting depth of the expression of these tokens. -/
def depth (tokens : List Token) : Nat :=
  (tokens.foldl Level.read (.anchored, [])).1.depth

/-- The deepest nesting that is accepted. -/
def depthLimit : Nat := 250

/-- The limit of the engine on the size of its programs. Of the engine itself no more is known
than that its program of the expression that matches everything is small enough. -/
class SizeLimit where
  /-- The program of the expression of these tokens is small enough. -/
  fits : List Token → Bool
  fits_cross : fits [.cross] = true

export SizeLimit (fits)

variable [SizeLimit]

/-- The expression of these tokens cannot be used. It is nested too deeply, or its program is
too large. -/
def Refused (tokens : List Token) : Prop :=
  depthLimit < depth tokens ∨ ¬ fits tokens

instance (tokens : List Token) : Decidable (Refused tokens) :=
  inferInstanceAs (Decidable (_ ∨ _))

theorem not_refused_iff {tokens : List Token} :
    ¬ Refused tokens ↔ depth tokens ≤ depthLimit ∧ fits tokens := by
  rw [Refused, not_or, Nat.not_lt, Decidable.not_not]

theorem refused_of_deep {tokens : List Token} (deep : depthLimit < depth tokens) :
    Refused tokens :=
  .inl deep

end Arbiter.Glob
