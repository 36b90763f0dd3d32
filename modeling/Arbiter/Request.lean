import Arbiter.Context
import Arbiter.Urn

/-!
# Requests and their records

A subject asks to perform an action, on a resource or on nothing in particular.
Policies see only the three texts of a request; voters see all of it.

* `Request` and `Access`: a request, and the texts that policies match.
* `TraceRecord`: what is kept of a decision for an audit.
-/

namespace Arbiter

/-- The three texts that policies match. -/
structure Access where
  subject : String
  action : String
  resource : String
  deriving DecidableEq

structure Request where
  subject : Urn
  action : String
  resource : Option Urn
  context : Context

namespace Request

/-- The text of the resource, empty without one. -/
def resourceText (r : Request) : String :=
  match r.resource with
  | some u => u.text
  | none => ""

def access (r : Request) : Access :=
  ⟨r.subject.text, r.action, r.resourceText⟩

end Request

/-- What is kept of one decision: the texts of the request, its context as it was passed, and
the verdict. -/
structure TraceRecord where
  action : String
  /-- The text of the resource, empty without one. -/
  resource : String
  subject : String
  context : Context
  result : Bool
  deriving DecidableEq

namespace TraceRecord

def ofVerdict (r : Request) (verdict : Bool) : TraceRecord :=
  ⟨r.action, r.resourceText, r.subject.text, r.context, verdict⟩

/-- The record as one line. Nothing in it is escaped. -/
def message (record : TraceRecord) : String :=
  "Checking if \"" ++ record.action ++ "\" is allowed on " ++ record.resource ++
    " for " ++ record.subject

end TraceRecord

end Arbiter
