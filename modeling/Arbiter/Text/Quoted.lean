import Arbiter.Text.Unprintable

/-!
# Quoted text

Diagnostics show a text between double quotes, with the characters that would
be misread inside the quotes written as escapes, and a list of texts between
square brackets.

* `Text.quoted`: one text in its quoted form.
* `Text.quotedList`: a list of texts, each quoted, separated by a comma and a
  blank.
-/

namespace Arbiter.Text

/-- The lower-case hexadecimal digits of a number, without padding. -/
def hexDigits (n : Nat) : List Char :=
  Nat.toDigits 16 n

/-- A character as it stands between quotes. The quote, the backslash and four
control characters have an escape of two characters; any other character that
does not show is written by its number. -/
def quotedChar (c : Char) : List Char :=
  match c with
  | '"' => ['\\', '"']
  | '\\' => ['\\', '\\']
  | '\n' => ['\\', 'n']
  | '\r' => ['\\', 'r']
  | '\t' => ['\\', 't']
  | '\x00' => ['\\', '0']
  | c => if isUnprintable c then ['\\', 'u', '{'] ++ hexDigits c.toNat ++ ['}'] else [c]

/-- A text between double quotes, with its escapes. -/
def quoted (text : String) : String :=
  String.ofList ('"' :: text.toList.flatMap quotedChar ++ ['"'])

def quotedList (texts : List String) : String :=
  "[" ++ ", ".intercalate (texts.map quoted) ++ "]"

end Arbiter.Text
