/-!
# The tokens of a glob

A glob addresses colon-segmented names. It is read from left to right into a
flat list of tokens, from which both the text of the anchored expression and
the matcher are made.

* `Cursor.read` reads one character: the only state carried along is whether a
  backslash is pending and how many groups are open.
* `tokens` reads a whole glob. Groups still open at its end are closed there,
  and a lone star stands for any text at all.
* `expression` writes the tokens as an anchored expression.
-/

namespace Arbiter.Glob

/-- A unit of a glob's meaning: a literal character, one of the three wildcards,
or a mark that opens, divides or closes a group of alternatives. -/
inductive Token where
  | lit (c : Char)
  | one
  | star
  /-- Any text at all, colons and line ends included. -/
  | cross
  | opening
  | bar
  | closing
  deriving DecidableEq

/-- What reading has to remember between two characters. -/
structure Cursor where
  /-- A backslash has been read, and the next character stands for itself. -/
  escaping : Bool
  depth : Nat
  deriving DecidableEq

def Cursor.start : Cursor := ⟨false, 0⟩

def startsWithStars : List Char → Bool
  | '*' :: '*' :: _ => true
  | _ => false

/-- Reads one character, with the raw text ahead of it in view. A colon before
two stars crosses segments even behind a backslash, and the stars are then read
on their own. -/
def Cursor.read (s : Cursor) (c : Char) (ahead : List Char) : Option Token × Cursor :=
  if c = ':' ∧ startsWithStars ahead then (some .cross, ⟨false, s.depth⟩)
  else if s.escaping then (some (.lit c), ⟨false, s.depth⟩)
  else match c with
    | '*' => (some .star, s)
    | '?' => (some .one, s)
    | '\\' => (none, ⟨true, s.depth⟩)
    | '{' => (some .opening, ⟨false, s.depth + 1⟩)
    | '}' =>
      match s.depth with
      | 0 => (some (.lit '}'), s)
      | depth + 1 => (some .closing, ⟨false, depth⟩)
    | ',' => (some (if s.depth = 0 then .lit ',' else .bar), s)
    | c => (some (.lit c), s)

/-- Reads a text from a cursor: its tokens in order, and the cursor at its end. -/
def scan (s : Cursor) : List Char → List Token × Cursor
  | [] => ([], s)
  | c :: ahead =>
    let (token, next) := s.read c ahead
    let (tokens, last) := scan next ahead
    (token.toList ++ tokens, last)

/-- The tokens of a whole glob. -/
def tokens (glob : List Char) : List Token :=
  if glob = ['*'] then [.cross]
  else
    let (tokens, last) := scan .start glob
    tokens ++ List.replicate last.depth .closing

/-! ## The written expression -/

/-- The characters that a backslash has to precede to stand for themselves in an
expression. -/
def metaChars : List Char :=
  ['\\', '.', '+', '*', '?', '(', ')', '|', '[', ']', '{', '}', '^', '$', '#', '&', '-', '~']

/-- A token as it stands in an expression. -/
def Token.chars : Token → List Char
  | .lit c => if c ∈ metaChars then ['\\', c] else [c]
  | .one => ['[', '^', ':', ']']
  | .star => ['[', '^', ':', ']', '*']
  | .cross => ['.', '*']
  | .opening => ['(', '?', ':']
  | .bar => ['|']
  | .closing => [')']

/-- The anchored expression of a glob, as a list of characters. -/
def expressionChars (glob : List Char) : List Char :=
  '^' :: (tokens glob).flatMap Token.chars ++ ['$']

/-- The anchored expression of a glob. Every glob has one. -/
def expression (glob : String) : String :=
  String.ofList (expressionChars glob.toList)

end Arbiter.Glob
