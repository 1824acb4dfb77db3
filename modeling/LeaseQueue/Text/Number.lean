/-!
Whole numbers in decimal digits, as people type them.
-/

namespace LeaseQueue.Text

def natOfDigits (digits : List Char) : Nat :=
  digits.foldl (fun value c => value * 10 + (c.toNat - '0'.toNat)) 0

/-- The last `width` digits of a number. -/
def padded : (width : Nat) → (value : Nat) → List Char
  | 0, _ => []
  | width + 1, value => padded width (value / 10) ++ [Char.ofNat ('0'.toNat + value % 10)]

def boundedDigits? (most : Nat) (digits : List Char) : Option Nat :=
  if digits ≠ [] ∧ digits.all Char.isDigit ∧ natOfDigits digits ≤ most then some (natOfDigits digits)
  else none

def bounded? (most : Nat) (text : String) : Option Nat :=
  match text.toList with
  | '+' :: digits => boundedDigits? most digits
  | digits => boundedDigits? most digits

/-- The largest number of 64 bits. -/
def most64 : Nat := UInt64.size - 1

/-- A number that fits in 64 bits. -/
def nat64? (text : String) : Option Nat := bounded? most64 text

end LeaseQueue.Text
