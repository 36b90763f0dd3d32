/-!
# Names

A URN names a subject or a resource: six segments behind the scheme `urn:`,
separated by colons. The last segment, the id, may hold colons itself.

* `Urn.text`: the canonical text.
* `Urn.parse`: the URN of a text. It fails without the scheme, and with fewer
  than five colons behind it.
-/

namespace Arbiter

structure Urn where
  partition : String
  service : String
  region : String
  owner : String
  className : String
  id : String
  deriving DecidableEq

/-- Why a text is no URN. -/
inductive UrnError where
  | missingScheme (text : String)
  | tooFewSegments (text : String)
  deriving DecidableEq

def UrnError.message : UrnError → String
  | .missingScheme text => "URN must start with \"urn:\": " ++ text
  | .tooFewSegments text => "URN has too few segments: " ++ text

namespace Urn

/-- The segments that are empty unless they are set. -/
inductive Segment where
  | partition
  | service
  | region
  | owner
  deriving DecidableEq

def ofId (id className : String) : Urn :=
  ⟨"", "", "", "", className, id⟩

/-- Sets one segment, whatever it held. -/
def set (u : Urn) (segment : Segment) (value : String) : Urn :=
  match segment with
  | .partition => { u with partition := value }
  | .service => { u with service := value }
  | .region => { u with region := value }
  | .owner => { u with owner := value }

def scheme : List Char := ['u', 'r', 'n', ':']

/-- The canonical text, as a list of characters. -/
def chars (u : Urn) : List Char :=
  scheme ++ u.partition.toList ++ ':' :: u.service.toList ++ ':' :: u.region.toList ++
    ':' :: u.owner.toList ++ ':' :: u.className.toList ++ ':' :: u.id.toList

def text (u : Urn) : String :=
  String.ofList u.chars

/-- Cuts a text at its first colon. -/
def cutSegment? (text : List Char) : Option (String × List Char) :=
  match text.dropWhile (· != ':') with
  | [] => none
  | _ :: rest => some (String.ofList (text.takeWhile (· != ':')), rest)

/-- The URN whose segments follow the scheme. The id is all that is left after the
fifth colon. -/
def ofSegments? (text : List Char) : Option Urn := do
  let (partition, text) ← cutSegment? text
  let (service, text) ← cutSegment? text
  let (region, text) ← cutSegment? text
  let (owner, text) ← cutSegment? text
  let (className, text) ← cutSegment? text
  return ⟨partition, service, region, owner, className, String.ofList text⟩

/-- The URN of a text. Nothing is trimmed. -/
def parse (text : String) : Except UrnError Urn :=
  match scheme.isPrefixOf? text.toList with
  | none => .error (.missingScheme text)
  | some rest =>
    match ofSegments? rest with
    | none => .error (.tooFewSegments text)
    | some u => .ok u

end Urn

end Arbiter
