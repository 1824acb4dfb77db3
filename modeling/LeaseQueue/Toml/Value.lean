import LeaseQueue.Toml.DateTime

/-!
TOML values. Floats are kept as written, since nothing is ever set to one.
-/

namespace LeaseQueue.Toml

inductive Value where
  | string (text : String)
  | integer (value : Int)
  | float (written : String)
  | outOfRange
  | boolean (value : Bool)
  | dateTime (value : DateTime)
  | array (items : List Value)
  | table (fields : List (String × Value))
deriving Inhabited

namespace Value

mutual

def isInRange : Value → Bool
  | .outOfRange => false
  | .array items => areInRange items
  | .table fields => fieldsAreInRange fields
  | _ => true

def areInRange : List Value → Bool
  | [] => true
  | item :: rest => isInRange item && areInRange rest

def fieldsAreInRange : List (String × Value) → Bool
  | [] => true
  | (_, value) :: rest => isInRange value && fieldsAreInRange rest

end

def string? : Value → Option String
  | .string text => some text
  | _ => none

def boolean? : Value → Option Bool
  | .boolean value => some value
  | _ => none

def nat? (most : Nat) : Value → Option Nat
  | .integer value => if 0 ≤ value ∧ value ≤ most then some value.toNat else none
  | _ => none

def list? {α : Type} (read : Value → Option α) : Value → Option (List α)
  | .array items => items.mapM read
  | _ => none

/-- One of some named choices: its name, or a table with nothing but an empty entry of that name. -/
def choice? {α : Type} (choices : List (String × α)) : Value → Option α
  | .string name => choices.lookup name
  | .table [(name, .array [])] => choices.lookup name
  | .table [(name, .table [])] => choices.lookup name
  | _ => none

def dateTimeKey : String := "$__toml_private_datetime"

/-- The entries of a table. A date or a time counts as a table that holds its text. -/
def entries? : Value → Option (List (String × Value))
  | .table fields => some fields
  | .dateTime value => some [(dateTimeKey, .string value.text)]
  | _ => none

/-- The fields of a record in the order of their names, absent ones as none. A table may hold other
entries whose numbers are in range; an array gives the first fields in order, and items after the
last field are not looked at. -/
def record? (names : List String) : Value → Option (List (Option Value))
  | .array items => some ((items.map some ++ List.replicate names.length none).take names.length)
  | value => do
    let fields ← value.entries?
    guard (fields.all fun (name, value) => names.contains name || value.isInRange)
    some (names.map fun name => fields.lookup name)

end Value

end LeaseQueue.Toml
