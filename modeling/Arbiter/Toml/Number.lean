import Arbiter.Toml.Reader

/-!
# TOML numbers

Integers have 64 bits. Floats have to be written in full, and may not be so
large that no double is near them.

* `integer` reads an integer of any base.
* `float` reads a float.
-/

namespace Arbiter.Toml

def isDecimal (c : Char) : Bool :=
  '0' ≤ c && c ≤ '9'

def digitValue (c : Char) : Nat :=
  if c ≤ '9' then c.toNat - '0'.toNat
  else if c ≤ 'F' then c.toNat - 'A'.toNat + 10
  else c.toNat - 'a'.toNat + 10

def ofDigits (base : Nat) (digits : List Char) : Nat :=
  digits.foldl (fun n c => base * n + digitValue c) 0

/-- Takes the digits at the start of a text, and single underscores between two of
them, which do not count. -/
def moreDigits (isDigit : Char → Bool) : List Char → List Char × List Char
  | [] => ([], [])
  | c :: rest =>
    if isDigit c then
      let (digits, rest) := moreDigits isDigit rest
      (c :: digits, rest)
    else if c = '_' ∧ rest.head?.any isDigit then moreDigits isDigit rest
    else ([], c :: rest)

def digits (isDigit : Char → Bool) : Reader (List Char)
  | c :: rest => if isDigit c then some (moreDigits isDigit (c :: rest)) else none
  | [] => none

/-- Takes a sign, and says whether it is a minus. -/
def sign : List Char → Bool × List Char
  | '+' :: rest => (false, rest)
  | '-' :: rest => (true, rest)
  | text => (false, text)

/-- Reads decimal digits without a leading zero. -/
def plainDigits : Reader (List Char)
  | '0' :: rest => some (['0'], rest)
  | text => digits isDecimal text

/-- The integers that are held in 64 bits. -/
def inRange (n : Int) : Bool :=
  Int64.minValue.toInt ≤ n && n ≤ Int64.maxValue.toInt

def intValue? (n : Int) : Option Value :=
  if inRange n then some (.int n) else none

def basedInteger (base : Nat) (isDigit : Char → Bool) : Reader Value := fun text => do
  let (ds, rest) ← digits isDigit text
  return (← intValue? (ofDigits base ds), rest)

/-- Reads an integer. Only decimal ones have a sign. -/
def integer : Reader Value
  | '0' :: 'x' :: rest =>
    basedInteger 16 (fun c => isDecimal c || 'a' ≤ c && c ≤ 'f' || 'A' ≤ c && c ≤ 'F') rest
  | '0' :: 'o' :: rest => basedInteger 8 (fun c => '0' ≤ c && c ≤ '7') rest
  | '0' :: 'b' :: rest => basedInteger 2 (fun c => c = '0' || c = '1') rest
  | text => do
    let (negative, unsigned) := sign text
    let (ds, rest) ← plainDigits unsigned
    let n : Int := ofDigits 10 ds
    return (← intValue? (if negative then -n else n), rest)

/-- Whether `mantissa * 10 ^ exponent` lies beyond all doubles: it is at least half a
unit above the largest of them. Far from that bound the number of digits decides. -/
def overflows (mantissa : Nat) (exponent : Int) : Bool :=
  let bound := Nat.pow 2 1024 - Nat.pow 2 970
  let size : Int := (Nat.toDigits 10 mantissa).length + exponent
  if mantissa = 0 ∨ size < 300 then false
  else if 320 < size then true
  else if exponent < 0 then bound * Nat.pow 10 exponent.natAbs ≤ mantissa
  else bound ≤ mantissa * Nat.pow 10 exponent.natAbs

def exponent : Reader Int
  | c :: rest =>
    if c = 'e' ∨ c = 'E' then do
      let (negative, unsigned) := sign rest
      let (ds, rest) ← digits isDecimal unsigned
      let n : Int := ofDigits 10 ds
      return (if negative then -n else n, rest)
    else none
  | [] => none

/-- Reads the fraction of a float, its point included. -/
def fraction : Reader (List Char)
  | '.' :: rest => digits isDecimal rest
  | _ => none

/-- What a text loses when a part of it has been read. -/
def consumed (text rest : List Char) : String :=
  String.ofList (text.take (text.length - rest.length))

/-- The fraction and the exponent behind the whole part of a float. There is one of
them at least. -/
def places (text : List Char) : Option ((List Char × Int) × List Char) :=
  match fraction text with
  | some (places, rest) =>
    match exponent rest with
    | some (power, rest) => some ((places, power), rest)
    | none => some ((places, 0), rest)
  | none => (exponent text).map fun (power, rest) => (([], power), rest)

def digitFloat : Reader Value := fun text => do
  let (negative, unsigned) := sign text
  let (whole, rest) ← plainDigits unsigned
  let ((places, power), rest) ← places rest
  if !negative && overflows (ofDigits 10 (whole ++ places)) (power - places.length) then none
  else return (.float (consumed text rest), rest)

def namedFloat : Reader Value := fun text => do
  let (_, unsigned) := sign text
  let (_, rest) ← (word ['i', 'n', 'f'] unsigned).or (word ['n', 'a', 'n'] unsigned)
  return (.float (consumed text rest), rest)

def float : Reader Value := fun text =>
  (digitFloat text).or (namedFloat text)

end Arbiter.Toml
