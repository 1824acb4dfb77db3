import LeaseQueue.Json.Decode

/-!
Records that travel as message payloads: orders, invoices and sensor readings.
-/

namespace LeaseQueue.Json

/-- The first number beyond 32 bits. -/
def limit32 : Nat := UInt32.size

structure Order where
  id : Nat
  sku : String
deriving DecidableEq

structure Invoice where
  number : String
  lines : List (String × Nat)
  paid : Bool
  note : Option String
deriving DecidableEq

structure Reading where
  sensor : String
  value : Float

def Order.toValue (order : Order) : Value :=
  .object [("id", .int order.id), ("sku", .string order.sku)]

def Order.ofNode? (node : Node) : Option Order := do
  let [some id, some sku] ← node.record? ["id", "sku"] 2 | none
  some ⟨← id.nat? (limit32 - 1), ← sku.text?⟩

def Invoice.lineToValue (line : String × Nat) : Value := .array [.string line.1, .int line.2]

def Invoice.toValue (invoice : Invoice) : Value :=
  .object [("number", .string invoice.number), ("lines", .array (invoice.lines.map lineToValue)),
    ("paid", .bool invoice.paid), ("note", (invoice.note.map Value.string).getD .null)]

def Invoice.lineOfNode? : Node → Option (String × Nat)
  | .array [item, count] => do some (← item.text?, ← count.nat? (limit32 - 1))
  | _ => none

def Invoice.ofNode? (node : Node) : Option Invoice := do
  let [some number, some lines, some paid, note] ←
    node.record? ["number", "lines", "paid", "note"] 4 | none
  some ⟨← number.text?, ← lines.list? lineOfNode?, ← paid.bool?,
    ← (note.getD .null).optional? Node.text?⟩

def Reading.toValue (reading : Reading) : Value :=
  .object [("sensor", .string reading.sensor), ("value", .ofFloat reading.value)]

def Reading.ofNode? (node : Node) : Option Reading := do
  let [some sensor, some value] ← node.record? ["sensor", "value"] 2 | none
  some ⟨← sensor.text?, ← value.float?⟩

end LeaseQueue.Json
