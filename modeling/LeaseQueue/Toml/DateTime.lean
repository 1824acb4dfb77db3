import LeaseQueue.Text.Number

/-!
Dates and times of day. `DateTime.read?` reads every form that a document may use, and
`DateTime.text` writes one form for each value.
-/

namespace LeaseQueue.Toml

open LeaseQueue.Text

structure Date where
  year : Nat
  month : Nat
  day : Nat
deriving DecidableEq, Inhabited

/-- A time of day; a leap second is its minute's second 60. -/
structure TimeOfDay where
  hour : Nat
  minute : Nat
  second : Nat
  nanos : Nat
deriving DecidableEq, Inhabited

inductive Offset where
  | world
  | shift (minutes : Int)
deriving DecidableEq, Inhabited

inductive DateTime where
  | day (date : Date)
  | clock (time : TimeOfDay)
  | dayAndClock (date : Date) (time : TimeOfDay)
  | point (date : Date) (time : TimeOfDay) (offset : Offset)
deriving DecidableEq, Inhabited

def field? (width least most : Nat) (written : List Char) : Option Nat :=
  let value := natOfDigits written
  if written.length = width ∧ written.all Char.isDigit ∧ least ≤ value ∧ value ≤ most then some value
  else none

namespace Date

def isLeapYear (year : Nat) : Bool := year % 4 == 0 && (year % 100 != 0 || year % 400 == 0)

def daysIn (year month : Nat) : Nat :=
  if month = 2 then (if isLeapYear year then 29 else 28)
  else if month = 4 ∨ month = 6 ∨ month = 9 ∨ month = 11 then 30
  else 31

def read? : List Char → Option Date
  | [a, b, c, d, '-', e, f, '-', g, h] => do
    let year ← field? 4 0 9999 [a, b, c, d]
    let month ← field? 2 1 12 [e, f]
    some ⟨year, month, ← field? 2 1 (daysIn year month) [g, h]⟩
  | _ => none

def write (date : Date) : List Char :=
  padded 4 date.year ++ '-' :: padded 2 date.month ++ '-' :: padded 2 date.day

end Date

def hourMinute? : List Char → Option (Nat × Nat)
  | [a, b, ':', c, d] => do some (← field? 2 0 23 [a, b], ← field? 2 0 59 [c, d])
  | _ => none

def writeHourMinute (hour minute : Nat) : List Char := padded 2 hour ++ ':' :: padded 2 minute

namespace TimeOfDay

def places : Nat := 9

def nanos? : List Char → Option Nat
  | [] => some 0
  | '.' :: digits =>
    if digits ≠ [] ∧ digits.all Char.isDigit then
      some (natOfDigits ((digits ++ List.replicate places '0').take places))
    else none
  | _ => none

def seconds? : List Char → Option (Nat × Nat)
  | [] => some (0, 0)
  | ':' :: a :: b :: fraction => do some (← field? 2 0 60 [a, b], ← nanos? fraction)
  | _ => none

def read? (written : List Char) : Option TimeOfDay := do
  let (hour, minute) ← hourMinute? (written.take 5)
  let (second, nanos) ← seconds? (written.drop 5)
  some ⟨hour, minute, second, nanos⟩

def writeNanos (nanos : Nat) : List Char :=
  if nanos = 0 then []
  else '.' :: ((padded places nanos).reverse.dropWhile (· == '0')).reverse

def write (time : TimeOfDay) : List Char :=
  writeHourMinute time.hour time.minute ++ ':' :: padded 2 time.second ++ writeNanos time.nanos

end TimeOfDay

namespace Offset

def minutes? (written : List Char) : Option Int := do
  let (hour, minute) ← hourMinute? written
  some (hour * 60 + minute : Nat)

def read? : List Char → Option Offset
  | ['Z'] => some .world
  | ['z'] => some .world
  | '+' :: ahead => (minutes? ahead).map .shift
  | '-' :: behind => (minutes? behind).map fun minutes => .shift (-minutes)
  | _ => none

def write : Offset → List Char
  | .world => ['Z']
  | .shift minutes =>
    (if minutes < 0 then '-' else '+') ::
      writeHourMinute (minutes.natAbs / 60) (minutes.natAbs % 60)

end Offset

namespace DateTime

/-- Reads what follows a date and the mark after it: a time of day, with or without an offset. -/
def ofDate? (date : Date) (written : List Char) : Option DateTime := do
  let (time, offset) := written.span fun c => !(c == 'Z' || c == 'z' || c == '+' || c == '-')
  let time ← TimeOfDay.read? time
  match offset with
  | [] => some (.dayAndClock date time)
  | offset => (Offset.read? offset).map (.point date time)

def read? (written : List Char) : Option DateTime :=
  match Date.read? (written.take 10), written.drop 10 with
  | some date, [] => some (.day date)
  | some date, mark :: time =>
    if mark == 'T' || mark == 't' || mark == ' ' then ofDate? date time else none
  | none, _ => (TimeOfDay.read? written).map .clock

def write : DateTime → List Char
  | .day date => date.write
  | .clock time => time.write
  | .dayAndClock date time => date.write ++ 'T' :: time.write
  | .point date time offset => date.write ++ 'T' :: time.write ++ offset.write

def text (value : DateTime) : String := String.ofList value.write

end DateTime

end LeaseQueue.Toml
