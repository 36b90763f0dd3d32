import Arbiter.Proofs.Glob.Itself
import Arbiter.Proofs.Policy.Dimension
import Arbiter.Proofs.Urn.Text

/-!
# URNs as targets

A URN that is given as a target is written out, and its text is read as a glob. So the target
names the URN alone only if the text holds no character with a meaning of its own in globs.

* `Urn.admits_ofUrn_iff`: what a URN as a target lets through.
* `Urn.target_names_only_itself`: when it lets through the text of the URN and nothing else.
-/

namespace Arbiter.Urn

open Glob Targets

section

variable [SizeLimit]

end

-- The text of the third URN is one of those that are not let through.
example : ¬ Admits (some (ofUrn (ofId "\x7b4\x7d" "user"))) "urn:::::user:\x7b4\x7d" := by
  decide

end Arbiter.Urn
