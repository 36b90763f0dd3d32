import Arbiter.Toml.Moment
import Arbiter.Toml.Quoted
import Arbiter.Toml.Table

/-!
# TOML documents

A document is read into its pairs and sections, and these are put together into
one table.

* `value` reads a value, nested no deeper than a limit.
* `lines` reads a document line by line.
* `parse?`: the table of a whole document, if it is well formed.
-/

namespace Arbiter.Toml

/-- Arrays and inline tables, and the parts of a dotted key, stay below this number. -/
def nestingLimit : Nat := 80

/-! ## Keys -/

def isBare (c : Char) : Bool :=
  c.isAlphanum || c = '_' || c = '-'

def simpleKey : Reader String
  | '"' :: rest => (basic rest).map fun (text, rest) => (String.ofList text, rest)
  | '\'' :: rest => (literal rest).map fun (text, rest) => (String.ofList text, rest)
  | text =>
    let bare := text.takeWhile isBare
    if bare.isEmpty then none else some (String.ofList bare, text.dropWhile isBare)

/-- Reads a key of one or more parts: all parts but the last, and the last. The fuel
is the number of parts that may still come. -/
def keyParts : Nat → Reader (List String × String)
  | 0, _ => none
  | fuel + 1, text => do
    let (part, rest) ← simpleKey (skipBlanks text)
    match skipBlanks rest with
    | '.' :: rest =>
      let ((path, key), rest) ← keyParts fuel rest
      return ((part :: path, key), rest)
    | rest => return (([], part), rest)

/-- Reads a key, with blanks around it and around its parts. -/
def dottedKey : Reader (List String × String) :=
  keyParts (nestingLimit - 1)

/-! ## Values -/

/-- Reads a value that holds no other values. -/
def scalar (text : List Char) : Option (Value × List Char) :=
  match text with
  | [] => none
  | c :: _ =>
    if c = '"' ∨ c = '\'' then
      (quotedText text).map fun (quoted, rest) => (.str (String.ofList quoted), rest)
    else if c = '+' ∨ c = '-' ∨ isDecimal c then
      ((moment text).or (float text)).or (integer text)
    else
      ((word ['t', 'r', 'u', 'e'] text).map fun (_, rest) => (.bool true, rest)).or <|
      ((word ['f', 'a', 'l', 's', 'e'] text).map fun (_, rest) => (.bool false, rest)).or <|
      namedFloat text

/-- Reads the elements of an array behind its bracket. Gaps and a comma behind the
last element are allowed. The fuel bounds the number of elements. -/
def elements (element : Reader Value) : Nat → Reader (List Value)
  | 0, _ => none
  | fuel + 1, text =>
    match skipGap false text with
    | ']' :: rest => some ([], rest)
    | text => do
      let (v, rest) ← element text
      match skipGap false rest with
      | ',' :: rest =>
        let (vs, rest) ← elements element fuel rest
        return (v :: vs, rest)
      | ']' :: rest => return ([v], rest)
      | _ => none

def pair (value : Reader Value) : Reader Pair := fun text => do
  let ((path, key), rest) ← dottedKey text
  match rest with
  | '=' :: rest =>
    let (v, rest) ← value (skipBlanks rest)
    return (⟨path, key, v⟩, skipBlanks rest)
  | _ => none

/-- Reads pairs up to the closing brace. The fuel bounds their number. -/
def morePairs (value : Reader Value) : Nat → Reader (List Pair)
  | 0, _ => none
  | fuel + 1, text => do
    let (p, rest) ← pair value text
    match rest with
    | ',' :: rest =>
      let (ps, rest) ← morePairs value fuel rest
      return (p :: ps, rest)
    | '}' :: rest => return ([p], rest)
    | _ => none

/-- Reads the pairs of an inline table behind its brace. -/
def inlinePairs (value : Reader Value) : Reader (List Pair) := fun text =>
  match skipBlanks text with
  | '}' :: rest => some ([], rest)
  | text => morePairs value text.length text

/-- Reads a value in which arrays and inline tables are nested at most so deep. -/
def value : Nat → Reader Value
  | depth, text =>
    match depth, text with
    | depth + 1, '[' :: rest =>
      (elements (value depth) text.length rest).map fun (vs, rest) => (.array vs, rest)
    | depth + 1, '{' :: rest => do
      let (pairs, rest) ← inlinePairs (value depth) rest
      let entries ← Pair.insertAll pairs []
      return (.table (Node.values entries), rest)
    | _, text => scalar text

/-! ## Lines -/

inductive Line where
  | empty
  | pair (pair : Pair)
  | header (isElement : Bool) (path : List String) (name : String)

def header : Reader Line
  | '[' :: rest => do
    let ((path, name), rest) ← dottedKey rest
    let (_, rest) ← word [']', ']'] rest
    return (.header true path name, rest)
  | rest => do
    let ((path, name), rest) ← dottedKey rest
    let (_, rest) ← word [']'] rest
    return (.header false path name, rest)

def line : Reader Line := fun text =>
  match restOfLine? text with
  | some rest => some (.empty, rest)
  | none => do
    let (l, rest) ← match skipBlanks text with
      | '[' :: rest => header rest
      | text => (pair (value (nestingLimit - 1)) text).map fun (p, rest) => (.pair p, rest)
    return (l, ← restOfLine? rest)

/-- Reads all lines. The fuel bounds their number. -/
def lines : Nat → List Char → Option (List Line)
  | _, [] => some []
  | 0, _ => none
  | fuel + 1, text => do
    let (l, rest) ← line text
    return l :: (← lines fuel rest)

/-- Sorts lines into the pairs before the first header, and the sections. -/
def Line.sections : List Line → List Pair × List Section
  | [] => ([], [])
  | .empty :: rest => sections rest
  | .pair p :: rest =>
    let (pairs, later) := sections rest
    (p :: pairs, later)
  | .header isElement path name :: rest =>
    let (pairs, later) := sections rest
    ([], ⟨isElement, path, name, pairs⟩ :: later)

/-- The mark that a text may start with to name its encoding. -/
def byteOrderMark : Char := '\uFEFF'

/-- The table of a document, if it is well formed. -/
def parse? (document : String) : Option Entries := do
  let text := match document.toList with
    | c :: rest => if c = byteOrderMark then rest else c :: rest
    | [] => []
  let (pairs, later) := Line.sections (← lines text.length text)
  let root ← Pair.insertAll pairs []
  return Node.values (← later.foldlM (fun root s => s.insert root) root)

end Arbiter.Toml
