import Arbiter.Version
import Arbiter.Session
import Arbiter.Settings.Document
import Arbiter.Settings.Form
import Arbiter.Proofs.Glob.Size
import Arbiter.Proofs.Glob.Expression
import Arbiter.Proofs.Glob.Expansion
import Arbiter.Proofs.Glob.Segments
import Arbiter.Proofs.Glob.Crossing
import Arbiter.Proofs.Glob.Concatenation
import Arbiter.Proofs.Glob.Completion
import Arbiter.Proofs.Glob.Peak
import Arbiter.Proofs.Glob.Itself
import Arbiter.Proofs.Urn.Text
import Arbiter.Proofs.Urn.Target
import Arbiter.Proofs.Json.Canonical
import Arbiter.Proofs.Settings.Reading
import Arbiter.Proofs.Store.Run
import Arbiter.Proofs.Store.Product
import Arbiter.Proofs.Chain.FanOut
import Arbiter.Proofs.Chain.Decision
import Arbiter.Proofs.Chain.Stores
import Arbiter.Proofs.Trace.Recording
import Arbiter.Proofs.TestDouble.History
import Arbiter.Proofs.TestDouble.Warnings
import Arbiter.Proofs.TestDouble.CheckedActions
import Arbiter.Proofs.Engine.Agreement
import Arbiter.Proofs.Engine.Checks
