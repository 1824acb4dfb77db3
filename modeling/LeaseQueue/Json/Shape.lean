import LeaseQueue.Json.Record

/-!
The kinds of data that a payload can be read as.
-/

namespace LeaseQueue.Json

inductive Shape where
  | value
  | nat (bits : Nat)
  | int64
  | float
  | bool
  | text
  | unit
  | optionalText
  | listOfNat32
  | mapOfNat32
  | order
  | invoice
  | reading
deriving DecidableEq

namespace Shape

def nat32? (node : Node) : Option Value := (node.nat? (limit32 - 1)).map fun found => .int found

def read? : Shape → Node → Option Value
  | .value, node => Value.ofNode? Value.mostOpen node
  | .nat bits, node => (node.nat? (Nat.pow 2 bits - 1)).map fun found => .int found
  | .int64, node => (node.int? (-(Int.pow 2 63)) (Int.pow 2 63 - 1)).map .int
  | .float, node => node.float?.map .float
  | .bool, node => node.bool?.map .bool
  | .text, node => node.text?.map .string
  | .unit, node => if node.isNull then some .null else none
  | .optionalText, node =>
    (node.optional? Node.text?).map fun found => (found.map Value.string).getD .null
  | .listOfNat32, node => (node.list? nat32?).map .array
  | .mapOfNat32, node => node.map? nat32?
  | .order, node => (Order.ofNode? node).map Order.toValue
  | .invoice, node => (Invoice.ofNode? node).map Invoice.toValue
  | .reading, node => (Reading.ofNode? node).map Reading.toValue

end Shape

end LeaseQueue.Json
