import Arbiter.Effect
import Arbiter.Scope
import Arbiter.Request

/-!
# JSON forms

How values are written as JSON and read back. Writing has one form for every
value; reading also takes some other forms.

* `Form`: a writer and a reader of one type.
* Forms of names, effects, scopes, contexts, conditions and audit records.
-/

namespace Arbiter

/-- Why a JSON value is not a form of a type. -/
inductive FormError where
  | shape
  | urn (error : UrnError)
  | unknownEffect (text : String)
  deriving DecidableEq

/-- What is said of the error, unless only the shape is wrong. -/
def FormError.message? : FormError → Option String
  | .shape => none
  | .urn error => some error.message
  | .unknownEffect text => some ("unknown variant `" ++ text ++ "`, expected `allow` or `deny`")

/-- A writer and a reader of one type. -/
structure Form (α : Type) where
  write : α → Json
  read : Json → Except FormError α

namespace Form

/-- A reader whose only error is a wrong shape. -/
def ofOption {α : Type} (read : Json → Option α) (v : Json) : Except FormError α :=
  match read v with
  | some x => .ok x
  | none => .error .shape

end Form

/-! ## Names, effects and scopes -/

def Urn.form : Form Urn where
  write u := .str u.text
  read
    | .str text => (Urn.parse text).mapError .urn
    | _ => .error .shape

/-- An effect is written as its text, and also read as the only member of an object,
with the value null. -/
def Effect.form : Form Effect where
  write e := .str e.text
  read
    | .str text => (Effect.parse text).mapError fun e => .unknownEffect e.text
    | .obj [(text, .null)] =>
      match Effect.ofText? text with
      | some e => .ok e
      | none => .error .shape
    | _ => .error .shape

def ScopeId.form : Form ScopeId where
  write id := .str id.text
  read
    | .str text => .ok ⟨text⟩
    | _ => .error .shape

/-! ## Contexts and conditions -/

namespace ContextValue

/-- A single text is written as such, and several texts as a list. -/
def toJson : ContextValue → Json
  | .one value => .str value
  | .many values => .arr (values.map .str)

/-- Reads a text, or a list of texts only. -/
def ofJson? : Json → Option ContextValue
  | .str value => some (.one value)
  | .arr elements => (Json.texts? elements).map .many
  | _ => none

def form : Form ContextValue := ⟨toJson, Form.ofOption ofJson?⟩

end ContextValue

namespace Context

def toJson (c : Context) : Json :=
  .obj (c.map fun (name, value) => (name, value.toJson))

/-- Reads the members of an object as a context. One that is no context value makes
the whole fail. -/
def ofMembers? : List (String × Json) → Option Context
  | [] => some []
  | (name, value) :: members => do
    return (name, ← ContextValue.ofJson? value) :: (← ofMembers? members)

def ofJson? : Json → Option Context
  | .obj members => ofMembers? members
  | _ => none

def form : Form Context := ⟨toJson, Form.ofOption ofJson?⟩

end Context

namespace Conditions

def ofJson? : Json → Option Conditions
  | .obj members => some members
  | _ => none

/-- The form of conditions: an object, whatever it holds. -/
def form : Form Conditions := ⟨.obj, Form.ofOption ofJson?⟩

end Conditions

/-! ## Audit records -/

namespace TraceRecord

def toJson (record : TraceRecord) : Json :=
  .obj [
    ("action", .str record.action),
    ("resource", .str record.resource),
    ("subject", .str record.subject),
    ("context", record.context.toJson),
    ("result", .bool record.result)]

/-- A record of fields that are all there. -/
def ofFields? : Json → Json → Json → Json → Json → Option TraceRecord
  | .str action, .str resource, .str subject, context, .bool result => do
    return ⟨action, resource, subject, ← Context.ofJson? context, result⟩
  | _, _, _, _, _ => none

/-- Reads an object of the fields, in which the context may be left out and other
members do not matter, or a list of exactly the five fields in their order. -/
def ofJson? : Json → Option TraceRecord
  | .obj members => do
    ofFields? (← members.lookup "action") (← members.lookup "resource")
      (← members.lookup "subject") ((members.lookup "context").getD (.obj []))
      (← members.lookup "result")
  | .arr [action, resource, subject, context, result] =>
    ofFields? action resource subject context result
  | _ => none

def form : Form TraceRecord := ⟨toJson, Form.ofOption ofJson?⟩

end TraceRecord

end Arbiter
