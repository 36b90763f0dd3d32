import Arbiter.Toml.Reader

/-!
# Building TOML tables

A table grows by pairs and headers, and nothing may be said twice. What may
still be added to a table depends on how it came about: one that a header named
is closed to later headers of that name and to dotted keys, one that was only
passed through on the way to another may still get its header, and one made by
dotted keys takes further dotted keys only.

* `Node.insertPair`: adds a pair whose key is a path.
* `Node.modifyAt`: changes what stands at the path of a header.
-/

namespace Arbiter.Toml

/-- How a table came about. -/
inductive Origin where
  | header
  | passed
  | dotted
  deriving DecidableEq

/-- A part of a document that may still grow. -/
inductive Node where
  | leaf (value : Value)
  | table (origin : Origin) (entries : List (String × Node))
  /-- The tables that headers in double brackets have named, in order. -/
  | tables (elements : List (List (String × Node)))

namespace Node

/-- Puts a node under a name, in the place of the one that is there. -/
def set (name : String) (node : Node) : List (String × Node) → List (String × Node)
  | [] => [(name, node)]
  | entry :: entries =>
    if entry.1 = name then (name, node) :: entries else entry :: set name node entries

def modifyLast {α : Type} (f : α → Option α) (elements : List α) : Option (List α) := do
  let last ← elements.getLast?
  return elements.dropLast ++ [← f last]

/-- Adds a pair to a table, below the tables on the path to its key. It fails if the
key is taken, or if the path leads to a table that is closed to dotted keys. -/
def insertPair (path : List String) (key : String) (value : Value)
    (entries : List (String × Node)) : Option (List (String × Node)) :=
  match path with
  | [] =>
    match entries.lookup key with
    | none => some (entries ++ [(key, .leaf value)])
    | some _ => none
  | name :: path => do
    let node ← match entries.lookup name with
      | none => (insertPair path key value []).map (.table .dotted)
      | some (.table .dotted below) => (insertPair path key value below).map (.table .dotted)
      | some (.table .passed below) =>
        if path.isEmpty then none else (insertPair path key value below).map (.table .passed)
      | some (.tables elements) =>
        if path.isEmpty then none
        else (modifyLast (insertPair path key value) elements).map .tables
      | some _ => none
    return set name node entries

/-- Changes what stands under the name at the end of a path. The path goes through
tables of any origin, and through the last of several tables of one name. -/
def modifyAt (path : List String) (name : String) (f : Option Node → Option Node)
    (entries : List (String × Node)) : Option (List (String × Node)) :=
  match path with
  | [] => do return set name (← f (entries.lookup name)) entries
  | step :: path => do
    let node ← match entries.lookup step with
      | none => (modifyAt path name f []).map (.table .passed)
      | some (.table origin below) => (modifyAt path name f below).map (.table origin)
      | some (.tables elements) => (modifyLast (modifyAt path name f) elements).map .tables
      | some (.leaf _) => none
    return set step node entries

mutual

def value : Node → Value
  | .leaf v => v
  | .table _ entries => .table (values entries)
  | .tables elements => .array (tableValues elements)

def values : List (String × Node) → Entries
  | [] => []
  | (name, node) :: entries => (name, node.value) :: values entries

def tableValues : List (List (String × Node)) → List Value
  | [] => []
  | entries :: elements => .table (values entries) :: tableValues elements

end

end Node

/-- A pair as it is written: the path to its key, the key, and its value. -/
structure Pair where
  path : List String
  key : String
  value : Value

def Pair.insertAll (pairs : List Pair) (entries : List (String × Node)) :
    Option (List (String × Node)) :=
  pairs.foldlM (fun entries p => Node.insertPair p.path p.key p.value entries) entries

/-- A header with the pairs below it. -/
structure Section where
  /-- The header stands in double brackets, and adds one more table of its name. -/
  isElement : Bool
  path : List String
  name : String
  pairs : List Pair

/-- Adds a section to the table of the whole document. -/
def Section.insert (s : Section) (root : List (String × Node)) : Option (List (String × Node)) :=
  Node.modifyAt s.path s.name
    (fun node =>
      if s.isElement then
        match node with
        | none => do return .tables [← Pair.insertAll s.pairs []]
        | some (.tables elements) => do
          return .tables (elements ++ [← Pair.insertAll s.pairs []])
        | some _ => none
      else
        match node with
        | none => (Pair.insertAll s.pairs []).map (.table .header)
        | some (.table .passed entries) => (Pair.insertAll s.pairs entries).map (.table .header)
        | some _ => none)
    root

end Arbiter.Toml
