import Arbiter.Toml.Number

/-!
# TOML dates and times

A moment is a date, a time of day, or both with or without an offset. Its parts
have to lie in their ranges, days in the range of their month.
-/

namespace Arbiter.Toml

/-- Reads a number of exactly so many digits that lies in a range. -/
def fixedNumber (width least greatest : Nat) : Reader Nat := fun text =>
  let ds := text.take width
  let n := ofDigits 10 ds
  if ds.length = width ∧ ds.all isDecimal ∧ least ≤ n ∧ n ≤ greatest then
    some (n, text.drop width)
  else none

def isLeapYear (year : Nat) : Bool :=
  year % 4 = 0 && (year % 100 ≠ 0 || year % 400 = 0)

def daysIn (year month : Nat) : Nat :=
  if month = 2 then if isLeapYear year then 29 else 28
  else if month = 4 ∨ month = 6 ∨ month = 9 ∨ month = 11 then 30
  else 31

def date : Reader Unit := fun text => do
  let (year, text) ← fixedNumber 4 0 9999 text
  let (_, text) ← word ['-'] text
  let (month, text) ← fixedNumber 2 1 12 text
  let (_, text) ← word ['-'] text
  let (_, text) ← fixedNumber 2 1 (daysIn year month) text
  return ((), text)

def hoursAndMinutes : Reader Unit := fun text => do
  let (_, text) ← fixedNumber 2 0 23 text
  let (_, text) ← word [':'] text
  let (_, text) ← fixedNumber 2 0 59 text
  return ((), text)

/-- The text behind the fraction of a second, if there is one. -/
def skipFraction : List Char → List Char
  | '.' :: c :: rest => if isDecimal c then rest.dropWhile isDecimal else '.' :: c :: rest
  | text => text

/-- Reads a time of day. A minute may have a leap second. -/
def timeOfDay : Reader Unit := fun text => do
  let (_, text) ← hoursAndMinutes text
  let (_, text) ← word [':'] text
  let (_, text) ← fixedNumber 2 0 60 text
  return ((), skipFraction text)

/-- The text behind an offset, if there is one. -/
def skipOffset (text : List Char) : List Char :=
  match text with
  | [] => []
  | c :: rest =>
    if c = 'Z' ∨ c = 'z' then rest
    else if c = '+' ∨ c = '-' then
      match hoursAndMinutes rest with
      | some (_, rest) => rest
      | none => text
    else text

/-- The text behind the time and the offset that may follow a date. -/
def skipTime (text : List Char) : List Char :=
  match text with
  | [] => []
  | c :: rest =>
    if c = 'T' ∨ c = 't' ∨ c = ' ' then
      match timeOfDay rest with
      | some (_, rest) => skipOffset rest
      | none => text
    else text

def moment : Reader Value := fun text =>
  match date text with
  | some (_, rest) =>
    let rest := skipTime rest
    some (.moment (consumed text rest), rest)
  | none => (timeOfDay text).map fun (_, rest) => (.moment (consumed text rest), rest)

end Arbiter.Toml
