import Arbiter.Glob.Marks
import Arbiter.Glob.Refusal
import Arbiter.Text.Quoted

/-!
# Patterns

A pattern is a glob made ready for matching. Making one never fails: a glob
whose expression is refused is compared as it stands.

* `Pattern.compile` makes a pattern from a glob.
* `Pattern.any` matches every candidate; it stands for a dimension that a policy
  leaves open.
* `Pattern.expression?` is the text of the expression, where there is one.
-/

namespace Arbiter

inductive Matcher where
  | any
  /-- The tokens have to account for the whole candidate. -/
  | tokens (tokens : List Glob.Token)
  /-- The candidate has to be the glob itself. -/
  | verbatim
  deriving DecidableEq

/-- A glob together with its matcher. -/
structure Pattern where
  glob : String
  matcher : Matcher
  deriving DecidableEq

namespace Pattern

/-- The text that stands for a dimension left open. -/
def anyGlob : String := "**"

/-- The pattern that matches every candidate. Its glob is only a label: read as a
glob, the same text stays within one segment. -/
def any : Pattern := ⟨anyGlob, .any⟩

def compile [Glob.SizeLimit] (glob : String) : Pattern :=
  let tokens := Glob.tokens glob.toList
  ⟨glob, if Glob.Refused tokens then .verbatim else .tokens tokens⟩

/-- Whether the whole candidate matches. -/
def accepts (p : Pattern) (candidate : String) : Bool :=
  match p.matcher with
  | .any => true
  | .tokens tokens => Glob.accepts tokens candidate.toList
  | .verbatim => p.glob == candidate

/-- The expression that decides, unless the glob is compared as it stands. -/
def expression? (p : Pattern) : Option String :=
  match p.matcher with
  | .any => some "^.*$"
  | .tokens _ => some (Glob.expression p.glob)
  | .verbatim => none

/-- Whether the glob was refused and is compared as it stands. -/
def isVerbatim (p : Pattern) : Bool :=
  match p.matcher with
  | .verbatim => true
  | _ => false

def description (p : Pattern) : String :=
  let expression := match p.expression? with
    | some text => "Some(" ++ Text.quoted text ++ ")"
    | none => "None"
  "CompiledPattern \x7b glob: " ++ Text.quoted p.glob ++ ", regex: " ++ expression ++ " \x7d"

end Pattern

end Arbiter
