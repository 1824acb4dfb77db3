import LeaseQueue.Text.Hex
import LeaseQueue.Toml.Value

/-!
TOML values that are written without quotes or brackets: truth values, numbers, dates and times.
-/

namespace LeaseQueue.Toml.Scalar

open LeaseQueue.Text

def separated? (isDigit : Char → Bool) : List Char → Option (List Char)
  | [] => none
  | [c] => if isDigit c then some [c] else none
  | c :: '_' :: rest => if isDigit c then (separated? isDigit rest).map (c :: ·) else none
  | c :: rest => if isDigit c then (separated? isDigit rest).map (c :: ·) else none

def natOfDigits (base : Nat) (digits : List Char) : Nat :=
  digits.foldl (fun value c => value * base + (Hex.digitValue? c).getD 0) 0

def isDigitBelow (base : Nat) (c : Char) : Bool :=
  match Hex.digitValue? c with
  | some value => value < base
  | none => false

/-- Whole numbers are held in 128 bits, with or without a sign. -/
def ofInt (value : Int) : Value :=
  if -(Int.pow 2 127) ≤ value ∧ value < Int.pow 2 128 then .integer value else .outOfRange

def wholeDigits? (written : List Char) : Option (List Char) :=
  match separated? Char.isDigit written with
  | some ('0' :: _ :: _) => none
  | found => found

def signed : List Char → Bool × List Char
  | '+' :: rest => (false, rest)
  | '-' :: rest => (true, rest)
  | rest => (false, rest)

def integer? (written : List Char) : Option Value :=
  let based (base : Nat) (digits : List Char) : Option Value :=
    (separated? (isDigitBelow base) digits).map fun digits => ofInt (natOfDigits base digits)
  match written with
  | '0' :: 'x' :: digits => based 16 digits
  | '0' :: 'o' :: digits => based 8 digits
  | '0' :: 'b' :: digits => based 2 digits
  | _ =>
    let (negative, digits) := signed written
    (wholeDigits? digits).map fun digits =>
      let magnitude : Int := natOfDigits 10 digits
      ofInt (if negative then -magnitude else magnitude)

def overflow : Nat := Nat.pow 2 1024 - Nat.pow 2 970

/-- Whether `digits * 10 ^ power` rounds to infinity. -/
def overflows (digits : List Char) (power : Int) : Bool :=
  let digits := digits.dropWhile (· == '0')
  let exponent := power + digits.length
  if digits.isEmpty ∨ exponent ≤ 308 then false
  else if exponent > 309 then true
  else overflow * Nat.pow 10 (-power).toNat ≤ natOfDigits 10 digits * Nat.pow 10 power.toNat

def exponent? : List Char → Option Int
  | [] => some 0
  | mark :: rest =>
    if mark == 'e' || mark == 'E' then
      let (negative, digits) := signed rest
      (separated? Char.isDigit digits).map fun digits =>
        let magnitude : Int := natOfDigits 10 digits
        if negative then -magnitude else magnitude
    else none

def isExponentMark (c : Char) : Bool := c == 'e' || c == 'E'

def float? (written : List Char) : Option Value := do
  let (_, magnitude) := signed written
  let shown := Value.float (String.ofList written)
  if magnitude = ['i', 'n', 'f'] ∨ magnitude = ['n', 'a', 'n'] then return shown
  let (mantissa, tail) := magnitude.span (!isExponentMark ·)
  let (whole, fraction) := mantissa.span (· != '.')
  let whole ← wholeDigits? whole
  let fraction ←
    match fraction with
    | [] => if tail.isEmpty then none else some []
    | _ :: digits => separated? Char.isDigit digits
  let power ← exponent? tail
  return if overflows (whole ++ fraction) (power - fraction.length) then .outOfRange else shown

def isScalarChar (c : Char) : Bool :=
  c.isAlphanum || c == '_' || c == '+' || c == '-' || c == '.' || c == ':'

/-- The characters of an unquoted scalar and what follows it. A date goes on after a single space
when a digit comes next. -/
def written (text : List Char) : List Char × List Char :=
  let (first, rest) := text.span isScalarChar
  match rest with
  | ' ' :: next :: _ =>
    if (Date.read? first).isSome && next.isDigit then
      let (time, after) := (rest.drop 1).span isScalarChar
      (first ++ ' ' :: time, after)
    else (first, rest)
  | _ => (first, rest)

def ofWritten? (written : List Char) : Option Value :=
  if written = ['t', 'r', 'u', 'e'] then some (.boolean true)
  else if written = ['f', 'a', 'l', 's', 'e'] then some (.boolean false)
  else (integer? written).or ((float? written).or ((DateTime.read? written).map .dateTime))

def read? (text : List Char) : Option (Value × List Char) :=
  let (written, rest) := written text
  (ofWritten? written).map fun value => (value, rest)

end LeaseQueue.Toml.Scalar
