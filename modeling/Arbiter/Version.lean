import Arbiter.Glob.Refusal

/-!
# Version

What this build of the library is: its version, and the limit of the regular expression
engine that it is built with.

* `Glob.estimatedSize`: about how much memory the engine's program of an expression takes.
* `Glob.sizeLimit`: the limit that runs of the library go by.
-/

namespace Arbiter

def version : String := "0.1.0"

namespace Glob

/-- The bytes that a token takes in the engine's program, roughly. A literal takes a state of
32 bytes for each byte of its UTF-8 form. A wildcard takes about thirty-two of them, for the
forms of all the characters that it stands for. Groups are not counted. -/
def Token.estimatedSize : Token → Nat
  | .lit c => 32 * c.utf8Size
  | .one => 32 * 32
  | .star => 32 * 32
  | .cross => 32 * 32
  | .opening => 0
  | .bar => 0
  | .closing => 0

/-- The size of the engine's program, roughly. The engine shares states where it can, so close
to the limit this is no more than an estimate, and nothing is stated of it in general. -/
def estimatedSize : List Token → Nat
  | [] => 0
  | token :: tokens => token.estimatedSize + estimatedSize tokens

/-- Ten mebibytes. -/
def sizeBound : Nat := 10 * 1024 * 1024

instance sizeLimit : SizeLimit where
  fits tokens := estimatedSize tokens ≤ sizeBound
  fits_cross := by decide

end Glob

end Arbiter
