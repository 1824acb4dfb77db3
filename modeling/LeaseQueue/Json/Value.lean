import LeaseQueue.Decimal.Shortest
import LeaseQueue.Json.Node

/-!
JSON values. `Value.read?` evaluates a document, `Value.write` writes one on a single line without
blanks. Whole numbers keep 64 bits, and any other numeral becomes a double.
-/

namespace LeaseQueue.Json

open LeaseQueue.Text

inductive Value where
  | null
  | bool (value : Bool)
  | int (value : Int)
  | float (value : Float)
  | string (text : String)
  | array (items : List Value)
  | object (fields : List (String × Value))
deriving Inhabited

/-- Characters of a string literal. A UTF-16 unit outside the surrogates is a character, two
surrogates in the right order are one, and any other surrogate is refused. -/
def StringUnit.chars? : List StringUnit → Option (List Char)
  | [] => some []
  | .broken :: _ => none
  | .scalar c :: rest => (chars? rest).map (c :: ·)
  | .escaped high :: .escaped low :: rest =>
    if high < 0xD800 ∨ 0xDFFF < high then
      (chars? (.escaped low :: rest)).map (Char.ofNat high :: ·)
    else if high < 0xDC00 ∧ 0xDC00 ≤ low ∧ low ≤ 0xDFFF then
      (chars? rest).map (Char.ofNat (0x10000 + (high - 0xD800) * 0x400 + (low - 0xDC00)) :: ·)
    else none
  | .escaped unit :: rest =>
    if unit < 0xD800 ∨ 0xDFFF < unit then (chars? rest).map (Char.ofNat unit :: ·) else none

def StringUnit.text? (units : List StringUnit) : Option String :=
  (StringUnit.chars? units).map String.ofList

inductive Number where
  | int (value : Int)
  | float (value : Float)

namespace Numeral

/-- A number in progress: the digits taken so far, which fit in 64 bits, and the power of ten that
the digits left out or taken after the point account for. -/
structure Scan where
  significand : Nat
  power : Int
  full : Bool

/-- A digit that no longer fits in 64 bits counts as a power of ten, as do all digits after it. -/
def Scan.whole (scan : Scan) (digit : Nat) : Scan :=
  if scan.full ∨ UInt64.size ≤ scan.significand * 10 + digit then
    { scan with power := scan.power + 1, full := true }
  else { scan with significand := scan.significand * 10 + digit }

def Scan.fraction (scan : Scan) : List Nat → Scan
  | [] => scan
  | digit :: rest =>
    if UInt64.size ≤ scan.significand * 10 + digit then scan
    else Scan.fraction ⟨scan.significand * 10 + digit, scan.power - 1, scan.full⟩ rest

def natOfDigits (digits : List Nat) : Nat := digits.foldl (fun value digit => value * 10 + digit) 0

def powerOfTen (power : Nat) : Float := Float.ofScientific 1 false power

/-- Divides by a power of ten, 308 places at a time. -/
def shrink (value : Float) (power : Nat) : Float :=
  if power ≤ 308 then value / powerOfTen power
  else if value == 0.0 then value
  else shrink (value / powerOfTen 308) (power - 308)
termination_by power

/-- The significand as a double, then moved by the power of ten in one multiplication or by
division; none when the product overflows. -/
def scale? (significand : Nat) (power : Int) : Option Float :=
  let value := significand.toUInt64.toFloat
  if power < 0 then some (shrink value power.natAbs)
  else if power ≤ 308 then
    let product := value * powerOfTen power.natAbs
    if product.isInf then none else some product
  else if value == 0.0 then some value
  else none

/-- The power of ten written as an exponent. Beyond 31 bits only the sign matters. -/
def writtenPower (negative : Bool) (digits : List Nat) : Int :=
  let power : Int := min (natOfDigits digits) (Int.pow 2 31)
  if negative then -power else power

def scan (numeral : Numeral) : Scan :=
  (numeral.whole.foldl Scan.whole ⟨0, 0, false⟩).fraction numeral.fraction

def float? (numeral : Numeral) : Option Float :=
  let scan := numeral.scan
  let power :=
    match numeral.exponent with
    | some (negative, digits) => scan.power + writtenPower negative digits
    | none => scan.power
  (scale? scan.significand power).map fun value => if numeral.negative then -value else value

/-- Whole numbers in the range of signed or unsigned 64-bit words are exact, except that minus zero
is a double. -/
def value? (numeral : Numeral) : Option Number :=
  let magnitude := natOfDigits numeral.whole
  if numeral.fraction = [] ∧ numeral.exponent = none ∧
      (if numeral.negative then magnitude ≠ 0 ∧ magnitude ≤ Nat.pow 2 63 else magnitude < UInt64.size) then
    some (.int (if numeral.negative then -(magnitude : Int) else magnitude))
  else numeral.float?.map .float

end Numeral

namespace Value

def insertField (key : String) (value : Value) : List (String × Value) → List (String × Value)
  | [] => [(key, value)]
  | (other, kept) :: rest =>
    if key < other then (key, value) :: (other, kept) :: rest
    else if key = other then (key, value) :: rest
    else (other, kept) :: insertField key value rest

def sortFields (fields : List (String × Value)) : List (String × Value) :=
  fields.foldl (fun sorted (key, value) => insertField key value sorted) []

mutual

/-- Evaluates a node that opens at most `room` arrays and objects inside each other. -/
def ofNode? : (room : Nat) → Node → Option Value
  | _, .null => some .null
  | _, .bool value => some (.bool value)
  | _, .number numeral =>
    numeral.value?.map fun
      | .int value => .int value
      | .float value => .float value
  | _, .string units => (StringUnit.text? units).map .string
  | 0, .array _ => none
  | 0, .object _ => none
  | room + 1, .array items => (ofItems? room items).map .array
  | room + 1, .object fields => (ofFields? room fields).map fun found => .object (sortFields found)

def ofItems? : (room : Nat) → List Node → Option (List Value)
  | _, [] => some []
  | room, item :: rest => do
    let first ← ofNode? room item
    let later ← ofItems? room rest
    some (first :: later)

def ofFields? : (room : Nat) → List (List StringUnit × Node) → Option (List (String × Value))
  | _, [] => some []
  | room, (key, value) :: rest => do
    let name ← StringUnit.text? key
    let first ← ofNode? room value
    let later ← ofFields? room rest
    some ((name, first) :: later)

end

def mostOpen : Nat := 127

def read? (text : List Piece) : Option Value := (Node.read? text).bind (ofNode? mostOpen)

/-- Doubles are written out in full from `1e-5` up to, but not with, `1e16`. -/
def floatLayout : Decimal.Layout := ⟨-5, 15⟩

def escape (c : Char) : List Char :=
  match c with
  | '"' => ['\\', '"']
  | '\\' => ['\\', '\\']
  | '\x08' => ['\\', 'b']
  | '\x0c' => ['\\', 'f']
  | '\n' => ['\\', 'n']
  | '\r' => ['\\', 'r']
  | '\t' => ['\\', 't']
  | c => if c.toNat < 0x20 then '\\' :: 'u' :: Hex.padded 4 c.toNat else [c]

def quote (text : String) : List Char := '"' :: (text.toList.flatMap escape ++ ['"'])

mutual

def write : Value → List Char
  | .null => ['n', 'u', 'l', 'l']
  | .bool true => ['t', 'r', 'u', 'e']
  | .bool false => ['f', 'a', 'l', 's', 'e']
  | .int value => (toString value).toList
  | .float value => floatLayout.writeFloat value
  | .string text => quote text
  | .array items => '[' :: writeItems items
  | .object fields => '{' :: writeFields fields

def writeItems : List Value → List Char
  | [] => [']']
  | [last] => write last ++ [']']
  | item :: rest => write item ++ ',' :: writeItems rest

def writeFields : List (String × Value) → List Char
  | [] => ['}']
  | [(key, last)] => quote key ++ ':' :: (write last ++ ['}'])
  | (key, value) :: rest => quote key ++ ':' :: (write value ++ ',' :: writeFields rest)

end

def text (value : Value) : String := String.ofList value.write

def bytes (value : Value) : List UInt8 := Utf8.encode value.text

/-- A double that is no number has no text of its own and becomes null. -/
def ofFloat (value : Float) : Value := if value.isFinite then .float value else .null

end Value

end LeaseQueue.Json
