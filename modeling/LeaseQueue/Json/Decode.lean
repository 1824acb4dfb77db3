import LeaseQueue.Json.Value

/-!
Readers from JSON nodes to typed data. A record is read from an object, by the names of its fields,
or from an array, by their order. An object may hold fields that no record names; they are not
evaluated.
-/

namespace LeaseQueue.Json.Node

def isNull : Node → Bool
  | .null => true
  | _ => false

def bool? : Node → Option Bool
  | .bool value => some value
  | _ => none

def text? : Node → Option String
  | .string units => StringUnit.text? units
  | _ => none

def int? (least most : Int) : Node → Option Int
  | .number numeral =>
    match numeral.value? with
    | some (.int value) => if least ≤ value ∧ value ≤ most then some value else none
    | _ => none
  | _ => none

def nat? (most : Nat) (node : Node) : Option Nat := (node.int? 0 most).map Int.toNat

def floatOfInt (value : Int) : Float :=
  if value < 0 then -(value.natAbs.toUInt64.toFloat) else value.natAbs.toUInt64.toFloat

def float? : Node → Option Float
  | .number numeral =>
    numeral.value?.map fun
      | .int value => floatOfInt value
      | .float value => value
  | _ => none

def optional? {α : Type} (read : Node → Option α) (node : Node) : Option (Option α) :=
  if node.isNull then some none else (read node).map some

def list? {α : Type} (read : Node → Option α) : Node → Option (List α)
  | .array items => items.mapM read
  | _ => none

def fields? : Node → Option (List (String × Node))
  | .object fields => fields.mapM fun (key, value) => (StringUnit.text? key).map fun name => (name, value)
  | _ => none

def field? (fields : List (String × Node)) (name : String) : Option (Option Node) :=
  match fields.filter fun field => field.1 == name with
  | [] => some none
  | [(_, value)] => some (some value)
  | _ => none

/-- The fields of a record in the order of their names, absent ones as none. An array holds at least
`leastItems` of them and no others. -/
def record? (names : List String) (leastItems : Nat) : Node → Option (List (Option Node))
  | .array items =>
    if leastItems ≤ items.length ∧ items.length ≤ names.length then
      some (items.map some ++ List.replicate (names.length - items.length) none)
    else none
  | node => do
    let fields ← node.fields?
    names.mapM (field? fields)

def map? (read : Node → Option Value) (node : Node) : Option Value := do
  let fields ← node.fields?
  let values ← fields.mapM fun (key, value) => (read value).map fun found => (key, found)
  some (.object (Value.sortFields values))

end LeaseQueue.Json.Node

namespace LeaseQueue.Json.Value

def ofIntMap (entries : List (Int × Value)) : Value :=
  let keys := (entries.map Prod.fst).mergeSort (fun first second => first ≤ second)
  .object (keys.eraseDups.filterMap fun key =>
    (entries.reverse.find? fun entry => entry.1 == key).map fun entry => (toString key, entry.2))

def ofBoolMap (entries : List (Bool × Value)) : Value :=
  .object ([false, true].filterMap fun key =>
    (entries.reverse.find? fun entry => entry.1 == key).map fun entry => (toString key, entry.2))

def ofPairMap? (entries : List ((Int × Int) × Value)) : Option Value :=
  if entries.isEmpty then some (.object []) else none

def ofBytes (bytes : List UInt8) : Value := .array (bytes.map fun byte => .int byte.toNat)

end LeaseQueue.Json.Value
