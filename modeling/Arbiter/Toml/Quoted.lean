import Arbiter.Toml.Reader

/-!
# Quoted TOML texts

A quoted text is basic, with escapes, or literal, without; and either kind may
run over several lines between triple quotes.

* `basic` and `literal` read what stands behind the opening quote.
* `quotedText` reads a quoted text of any of the four kinds.
-/

namespace Arbiter.Toml

def hexDigit? (c : Char) : Option Nat :=
  if '0' ≤ c ∧ c ≤ '9' then some (c.toNat - '0'.toNat)
  else if 'a' ≤ c ∧ c ≤ 'f' then some (c.toNat - 'a'.toNat + 10)
  else if 'A' ≤ c ∧ c ≤ 'F' then some (c.toNat - 'A'.toNat + 10)
  else none

/-- The character whose number is written in hexadecimal, if it is one. -/
def charOfHex? (digits : List Char) : Option Char := do
  let values ← digits.mapM hexDigit?
  let number := values.foldl (fun n digit => 16 * n + digit) 0
  if number.isValidChar then some (Char.ofNat number) else none

def escape? : Char → Option Char
  | 'b' => some '\x08'
  | 't' => some '\t'
  | 'n' => some '\n'
  | 'f' => some '\x0c'
  | 'r' => some '\r'
  | '"' => some '"'
  | '\\' => some '\\'
  | _ => none

def consText (c : Char) : Option (List Char × List Char) → Option (List Char × List Char)
  | some (text, rest) => some (c :: text, rest)
  | none => none

def basic : Reader (List Char)
  | [] => none
  | '"' :: rest => some ([], rest)
  | '\\' :: 'u' :: a :: b :: c :: d :: rest => do
    consText (← charOfHex? [a, b, c, d]) (basic rest)
  | '\\' :: 'U' :: a :: b :: c :: d :: e :: f :: g :: h :: rest => do
    consText (← charOfHex? [a, b, c, d, e, f, g, h]) (basic rest)
  | '\\' :: c :: rest => do
    consText (← escape? c) (basic rest)
  | c :: rest => if isText c && c ≠ '\\' then consText c (basic rest) else none

def literal : Reader (List Char)
  | [] => none
  | '\'' :: rest => some ([], rest)
  | c :: rest => if isText c then consText c (literal rest) else none

/-- Whether a line ends here, blanks aside. -/
def endsLine (text : List Char) : Bool :=
  (lineEnd? (skipBlanks text)).isSome

/-- Reads a basic text of several lines up to its closing quotes. The flag says that
a backslash has ended a line: blanks and line ends are then dropped. -/
def basicLines (folding : Bool) : Reader (List Char)
  | [] => none
  | '"' :: '"' :: '"' :: '"' :: '"' :: rest => some (['"', '"'], rest)
  | '"' :: '"' :: '"' :: '"' :: rest => some (['"'], rest)
  | '"' :: '"' :: '"' :: rest => some ([], rest)
  | '\r' :: '\n' :: rest =>
    if folding then basicLines true rest else consText '\n' (basicLines false rest)
  | '\n' :: rest =>
    if folding then basicLines true rest else consText '\n' (basicLines false rest)
  | '\\' :: 'u' :: a :: b :: c :: d :: rest => do
    consText (← charOfHex? [a, b, c, d]) (basicLines false rest)
  | '\\' :: 'U' :: a :: b :: c :: d :: e :: f :: g :: h :: rest => do
    consText (← charOfHex? [a, b, c, d, e, f, g, h]) (basicLines false rest)
  | '\\' :: c :: rest =>
    if endsLine (c :: rest) then basicLines true (c :: rest)
    else match escape? c with
      | some c => consText c (basicLines false rest)
      | none => none
  | c :: rest =>
    if folding && isBlank c then basicLines true rest
    else if isText c && c ≠ '\\' then consText c (basicLines false rest)
    else none

/-- Reads a literal text of several lines up to its closing quotes. -/
def literalLines : Reader (List Char)
  | [] => none
  | '\'' :: '\'' :: '\'' :: '\'' :: '\'' :: rest => some (['\'', '\''], rest)
  | '\'' :: '\'' :: '\'' :: '\'' :: rest => some (['\''], rest)
  | '\'' :: '\'' :: '\'' :: rest => some ([], rest)
  | '\r' :: '\n' :: rest => consText '\n' (literalLines rest)
  | '\n' :: rest => consText '\n' (literalLines rest)
  | c :: rest => if isText c then consText c (literalLines rest) else none

/-- The text behind a line end at its start, if there is one. -/
def dropLineEnd (text : List Char) : List Char :=
  (lineEnd? text).getD text

/-- Reads a quoted text of any kind, its opening quotes included. A line end right
behind triple quotes does not belong to the text. -/
def quotedText : Reader (List Char)
  | '"' :: '"' :: '"' :: rest => basicLines false (dropLineEnd rest)
  | '"' :: rest => basic rest
  | '\'' :: '\'' :: '\'' :: rest => literalLines (dropLineEnd rest)
  | '\'' :: rest => literal rest
  | _ => none

end Arbiter.Toml
