import Arbiter.Text.Quoted

/-!
# Context and conditions

A request carries a context, and a policy may carry conditions. Neither means
anything to the engines themselves: only voters look into them.

* `Json`: the values that policies and audit records are exchanged in. Numbers are exact
  decimals, and the members of an object keep their order.
* `Context` and `Conditions`: values by name.
-/

namespace Arbiter

inductive Json where
  | null
  | bool (value : Bool)
  /-- The integer `mantissa` with its last `places` digits behind the point. -/
  | number (mantissa : Int) (places : Nat)
  | str (text : String)
  | arr (elements : List Json)
  /-- Members in some order. In an object that was read no two of them share a name; the list
  does not exclude that, and it tells orders apart, so what is shown of all lists of members
  is shown of all objects, up to their order. -/
  | obj (members : List (String × Json))

namespace Json

instance : Inhabited Json := ⟨.null⟩

def texts? : List Json → Option (List String)
  | [] => some []
  | .str text :: elements => (texts? elements).map (text :: ·)
  | _ :: _ => none

def bool? : Json → Option Bool
  | .bool value => some value
  | _ => none

end Json

/-! ## Values by name -/

/-- What a request says under one name: a single text or a list of texts. -/
inductive ContextValue where
  | one (value : String)
  | many (values : List String)
  deriving DecidableEq

/-- The context of a request: values by name, in some order. No two values of a context that
was built or read have one name. As with the members of an object, the list does not exclude
that, and two lists may be one context. -/
abbrev Context := List (String × ContextValue)

/-- The conditions of a policy: values by name, of any shape, with the same proviso. -/
abbrev Conditions := List (String × Json)

namespace ContextValue

def description : ContextValue → String
  | .one value => "One(" ++ Text.quoted value ++ ")"
  | .many values => "Many(" ++ Text.quotedList values ++ ")"

def holds (v : ContextValue) (text : String) : Bool :=
  match v with
  | .one value => value == text
  | .many values => values.contains text

end ContextValue

namespace Context

def get? (c : Context) (name : String) : Option ContextValue :=
  c.lookup name

def description (c : Context) : String :=
  let entries := c.map fun (name, value) => Text.quoted name ++ ": " ++ value.description
  "\x7b" ++ ", ".intercalate entries ++ "\x7d"

end Context

end Arbiter
