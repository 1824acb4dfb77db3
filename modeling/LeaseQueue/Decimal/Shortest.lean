/-!
The shortest decimal that reads back as a given double, and of those the nearest to it. A positive
finite double is `mantissa * 2 ^ power`; the decimals that read back as it form an interval, whose
ends belong to it exactly when the mantissa is even. The coarsest decimal grid with a point in the
interval wins. All comparisons are exact, on natural numbers.
-/

namespace LeaseQueue

/-- The number `digits * 10 ^ power`. -/
structure Decimal where
  digits : Nat
  power : Int

namespace Decimal

/-- A positive finite double, `mantissa * 2 ^ power`; `narrow` when the gap to the double below is
half the gap to the one above. -/
structure Binary where
  mantissa : Nat
  power : Int
  narrow : Bool

def Binary.ofBits (bits : Nat) : Binary :=
  let exponent : Nat := bits / Nat.pow 2 52 % Nat.pow 2 11
  let fraction := bits % Nat.pow 2 52
  if exponent = 0 then ⟨fraction, -1074, false⟩
  else ⟨Nat.pow 2 52 + fraction, (exponent : Int) - 1075, fraction == 0 && exponent != 1⟩

/-- A quarter of the double's last place is `2 ^ (power - 2)`; the double and the ends of its
interval are whole multiples of it. -/
structure Interval where
  low : Nat
  middle : Nat
  high : Nat
  power : Int
  closed : Bool

def Binary.interval (x : Binary) : Interval :=
  { low := 4 * x.mantissa - (if x.narrow then 1 else 2)
    middle := 4 * x.mantissa
    high := 4 * x.mantissa + 2
    power := x.power - 2
    closed := x.mantissa % 2 == 0 }

/-- `units * 2 ^ twos` and `digits * 10 ^ tens` as whole numbers over one denominator. -/
def overCommon (units : Nat) (twos : Int) (digits : Nat) (tens : Int) : Nat × Nat :=
  (units * Nat.pow 2 twos.toNat * Nat.pow 10 (-tens).toNat,
    digits * Nat.pow 10 tens.toNat * Nat.pow 2 (-twos).toNat)

def Interval.holds (interval : Interval) (point : Decimal) : Bool :=
  let (low, atLow) := overCommon interval.low interval.power point.digits point.power
  let (high, atHigh) := overCommon interval.high interval.power point.digits point.power
  if interval.closed then low ≤ atLow && atHigh ≤ high else low < atLow && atHigh < high

/-- The multiple of `10 ^ power` at or just below the double. -/
def Interval.floorAt (interval : Interval) (power : Int) : Decimal :=
  let (units, one) := overCommon interval.middle interval.power 1 power
  ⟨units / one, power⟩

def Interval.prefersAbove (interval : Interval) (below : Decimal) : Bool :=
  let (units, _) := overCommon interval.middle interval.power 1 below.power
  let (_, double) := overCommon interval.middle interval.power (2 * below.digits + 1) below.power
  double < 2 * units || (double == 2 * units && below.digits % 2 == 1)

/-- The point of the grid `10 ^ power` that reads back, the nearer one when two do. -/
def Interval.hit? (interval : Interval) (power : Int) : Option Decimal :=
  let below := interval.floorAt power
  let above : Decimal := ⟨below.digits + 1, power⟩
  match interval.holds below && below.digits != 0, interval.holds above with
  | true, true => some (if interval.prefersAbove below then above else below)
  | true, false => some below
  | false, true => some above
  | false, false => none

def Interval.leadingExponent (interval : Interval) : Int :=
  let (units, one) := overCommon interval.middle interval.power 1 (-400)
  ((Nat.toDigits 10 (units / one)).length : Int) - 401

/-- The first hit on grids of `used`, `used + 1`, … digits. -/
def Interval.search (interval : Interval) (leading : Int) : (grids used : Nat) → Decimal
  | 0, used => interval.floorAt (leading + 1 - used)
  | grids + 1, used =>
    (interval.hit? (leading + 1 - used)).getD (interval.search leading grids (used + 1))

/-- Seventeen digits always suffice. -/
def Interval.shortest (interval : Interval) : Decimal :=
  interval.search interval.leadingExponent 17 1

def shortest (magnitudeBits : Nat) : Decimal := (Binary.ofBits magnitudeBits).interval.shortest

/-- How a decimal is written: the exponents of the first digit for which it is written out in full. -/
structure Layout where
  leastPlain : Int
  mostPlain : Int

def scientific (x : Decimal) : List Char × Int :=
  let digits := Nat.toDigits 10 x.digits
  ((digits.reverse.dropWhile (· == '0')).reverse, x.power + digits.length - 1)

def zeros (count : Nat) : List Char := List.replicate count '0'

def signed (exponent : Int) : List Char :=
  (if exponent < 0 then '-' else '+') :: Nat.toDigits 10 exponent.natAbs

def plain (digits : List Char) (exponent : Int) : List Char :=
  if exponent < 0 then '0' :: '.' :: (zeros (exponent.natAbs - 1) ++ digits)
  else
    let whole := exponent.toNat + 1
    let fraction := digits.drop whole
    digits.take whole ++ zeros (whole - digits.length) ++
      '.' :: (if fraction.isEmpty then ['0'] else fraction)

def Layout.write (layout : Layout) (x : Decimal) : List Char :=
  let (digits, exponent) := x.scientific
  if layout.leastPlain ≤ exponent ∧ exponent ≤ layout.mostPlain then plain digits exponent
  else
    match digits with
    | [] => ['0']
    | [only] => only :: 'e' :: signed exponent
    | first :: rest => first :: '.' :: (rest ++ 'e' :: signed exponent)

def Layout.writeFloat (layout : Layout) (x : Float) : List Char :=
  let bits := x.toBits.toNat
  let magnitude := bits % Nat.pow 2 63
  (if bits ≥ Nat.pow 2 63 then ['-'] else []) ++
    (if magnitude = 0 then "0.0".toList else layout.write (shortest magnitude))

end Decimal

end LeaseQueue
