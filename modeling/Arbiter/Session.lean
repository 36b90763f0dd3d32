import Arbiter.Chain
import Arbiter.TestDouble
import Arbiter.Trace.Tower
import Arbiter.Voter.Stock

/-!
# Sessions

A session is an engine of any kind under any number of layers of tracing, as it
is put together while a program runs.

* `Core`: an engine of any kind.
* `Session.traced` adds a layer, and `Session.unwrapped?` takes the outermost one
  off.
-/

namespace Arbiter

inductive Core where
  | chain (chain : Chain StockVoter)
  | double (double : TestDouble)
  | fixed (engine : FixedEngine)

instance [Glob.SizeLimit] : Engine Core where
  check
    | .chain c, r => (Engine.check c r).mapState .chain
    | .double d, r => (Engine.check d r).mapState .double
    | .fixed e, r => (Engine.check e r).mapState .fixed
  addPolicy
    | .chain c, g, conditions => (Engine.addPolicy c g conditions).mapState .chain
    | .double d, g, conditions => (Engine.addPolicy d g conditions).mapState .double
    | .fixed e, g, conditions => (Engine.addPolicy e g conditions).mapState .fixed
  reset
    | .chain c => .chain (Engine.reset c)
    | .double d => .double (Engine.reset d)
    | .fixed e => .fixed (Engine.reset e)

/-- An engine of any kind under any number of layers of tracing. -/
structure Session where
  height : Nat
  tower : Tower Core StockSink height

namespace Session

def ofCore (core : Core) : Session :=
  ⟨0, core⟩

def traced (s : Session) (sink : StockSink) (settings : TraceSettings) : Session :=
  ⟨s.height + 1, (⟨s.tower, .new sink settings⟩ : Traced _ _)⟩

/-- The session without its outermost layer, if it has one. -/
def unwrapped? : Session → Option Session
  | ⟨0, _⟩ => none
  | ⟨height + 1, (t : Traced _ _)⟩ => some ⟨height, t.inner⟩

/-- The books of all layers, outermost first. -/
def recorders (s : Session) : List (Recorder StockSink) :=
  s.tower.recorders

def core (s : Session) : Core :=
  s.tower.core

/-- The test double of a session without tracing. -/
def bareDouble? (s : Session) : Option TestDouble :=
  match s.height, s.core with
  | 0, .double d => some d
  | _, _ => none

instance [Glob.SizeLimit] : Engine Session where
  check s r := (Engine.check s.tower r).mapState fun t => ⟨s.height, t⟩
  addPolicy s g conditions :=
    (Engine.addPolicy s.tower g conditions).mapState fun t => ⟨s.height, t⟩
  reset s := ⟨s.height, Engine.reset s.tower⟩

end Session

end Arbiter
