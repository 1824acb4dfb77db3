/-!
Hexadecimal digits, in lower case when written and in either case when read.
-/

namespace LeaseQueue.Text.Hex

def digit (value : Nat) : Char :=
  if value < 10 then Char.ofNat ('0'.toNat + value) else Char.ofNat ('a'.toNat + (value - 10))

def digitValue? (c : Char) : Option Nat :=
  if '0' ≤ c ∧ c ≤ '9' then some (c.toNat - '0'.toNat)
  else if 'a' ≤ c ∧ c ≤ 'f' then some (c.toNat - 'a'.toNat + 10)
  else if 'A' ≤ c ∧ c ≤ 'F' then some (c.toNat - 'A'.toNat + 10)
  else none

/-- The last `width` digits of a number. -/
def padded : (width : Nat) → (value : Nat) → List Char
  | 0, _ => []
  | width + 1, value => padded width (value / 16) ++ [digit (value % 16)]

def unpadded (value : Nat) : List Char := Nat.toDigits 16 value

def value? (digits : List Char) : Option Nat :=
  digits.foldlM (fun value c => (digitValue? c).map (value * 16 + ·)) 0

def ofBytes (bytes : List UInt8) : List Char := bytes.flatMap fun byte => padded 2 byte.toNat

def toBytes? : List Char → Option (List UInt8)
  | [] => some []
  | [_] => none
  | high :: low :: rest => do
    let first ← digitValue? high
    let second ← digitValue? low
    let later ← toBytes? rest
    some ((first * 16 + second).toUInt8 :: later)

end LeaseQueue.Text.Hex
