/-!
# Reading TOML text

What a TOML document holds, and the pieces that all parts of the grammar share: which
characters a text may hold, where a line ends, and what may stand between two values.

* `Value`: floats and dates are kept as they are written. They have to be well formed, and
  nothing more is asked of them.
* `Value.same_iff`: values can be compared.
* `Reader`: takes the text ahead and gives what it has read with the text behind it, or
  nothing if the text is malformed.
-/

namespace Arbiter.Toml

inductive Value where
  | str (text : String)
  | int (value : Int)
  | float (literal : String)
  | bool (value : Bool)
  /-- A date, a time of day, or both. -/
  | moment (literal : String)
  | array (elements : List Value)
  | table (entries : List (String × Value))

abbrev Entries := List (String × Value)

mutual

def Value.same : Value → Value → Bool
  | .str a, .str b => a = b
  | .int a, .int b => a = b
  | .float a, .float b => a = b
  | .bool a, .bool b => a = b
  | .moment a, .moment b => a = b
  | .array vs, .array ws => sameElements vs ws
  | .table vs, .table ws => sameEntries vs ws
  | _, _ => false

def sameElements : List Value → List Value → Bool
  | [], [] => true
  | v :: vs, w :: ws => v.same w && sameElements vs ws
  | _, _ => false

/-- Entries are the same only in the same order. -/
def sameEntries : Entries → Entries → Bool
  | [], [] => true
  | (key, v) :: vs, (key', w) :: ws => key = key' && v.same w && sameEntries vs ws
  | _, _ => false

end

mutual

theorem Value.same_iff (v w : Value) : v.same w = true ↔ v = w := by
  cases v with
  | array vs => cases w <;> simp [Value.same, sameElements_iff vs]
  | table vs => cases w <;> simp [Value.same, sameEntries_iff vs]
  | _ => cases w <;> simp [Value.same]

theorem sameElements_iff (vs ws : List Value) : sameElements vs ws = true ↔ vs = ws := by
  cases vs with
  | nil => cases ws <;> simp [sameElements]
  | cons v vs => cases ws <;> simp [sameElements, Value.same_iff v, sameElements_iff vs]

theorem sameEntries_iff (vs ws : Entries) : sameEntries vs ws = true ↔ vs = ws := by
  cases vs with
  | nil => cases ws <;> simp [sameEntries]
  | cons entry vs =>
    obtain ⟨key, v⟩ := entry
    cases ws with
    | nil => simp [sameEntries]
    | cons entry ws =>
      obtain ⟨key', w⟩ := entry
      simp [sameEntries, Value.same_iff v, sameEntries_iff vs]

end

instance : DecidableEq Value := fun v w => decidable_of_iff _ (Value.same_iff v w)

/-- A reader of one part of the grammar. -/
abbrev Reader (α : Type) := List Char → Option (α × List Char)

def isBlank (c : Char) : Bool :=
  c = ' ' || c = '\t'

/-- The characters that a comment or a quoted text may hold: everything but
control characters, and the tab. -/
def isText (c : Char) : Bool :=
  c = '\t' || (0x20 ≤ c.toNat && c.toNat ≠ 0x7f)

def skipBlanks (text : List Char) : List Char :=
  text.dropWhile isBlank

/-- The text behind a line end, which is a line feed with or without a carriage
return before it. -/
def lineEnd? : List Char → Option (List Char)
  | '\n' :: rest => some rest
  | '\r' :: '\n' :: rest => some rest
  | _ => none

/-- The text behind the rest of a line that may hold blanks and a comment only. The
last line needs no line end. -/
def restOfLine? (text : List Char) : Option (List Char) :=
  let text := skipBlanks text
  let text := match text with
    | '#' :: comment => comment.dropWhile isText
    | text => text
  if text.isEmpty then some [] else lineEnd? text

/-- The text behind blanks, line ends and comments. The flag says whether a comment
has begun. -/
def skipGap (inComment : Bool) : List Char → List Char
  | [] => []
  | c :: rest =>
    if c = '\n' ∨ (c = '\r' ∧ rest.head? = some '\n') then skipGap false rest
    else if inComment then if isText c then skipGap true rest else c :: rest
    else if c = '#' then skipGap true rest
    else if isBlank c then skipGap false rest
    else c :: rest

def word (expected : List Char) : Reader Unit := fun text =>
  (expected.isPrefixOf? text).map ((), ·)

end Arbiter.Toml
