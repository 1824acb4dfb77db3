import LeaseQueue.Toml.Value

/-!
Tables while a document is read. What may still be added to a table depends on how it came about: a
table that has a header of its own, or was written on one line, is complete in its section.
-/

namespace LeaseQueue.Toml

/-- How a table came about: on the way to another header, by a header of its own, or by a dotted key. -/
inductive Origin where
  | path
  | header
  | dotted
deriving DecidableEq

/-- What a key stands for. A list of tables keeps the tables before the current one, oldest first. -/
inductive Item where
  | value (value : Value)
  | table (origin : Origin) (items : List (String × Item))
  | tables (earlier : List (List (String × Item))) (current : List (String × Item))

abbrev Items := List (String × Item)

namespace Items

def set (key : String) (item : Item) : Items → Items
  | [] => [(key, item)]
  | (other, kept) :: rest =>
    if key = other then (key, item) :: rest else (other, kept) :: set key item rest

/-- Adds a value under a dotted key. The tables on the way are made by dotted keys; the last of them
must not have come about otherwise, and none may have a header, but a list of tables stands for its
current one. -/
def insert? : (key : List String) → Value → Items → Option Items
  | [], _, _ => none
  | [key], value, items =>
    match items.lookup key with
    | none => some (items.set key (.value value))
    | some _ => none
  | key :: rest, value, items =>
    match items.lookup key with
    | none => (insert? rest value []).map fun inner => items.set key (.table .dotted inner)
    | some (.table .dotted inner) =>
      (insert? rest value inner).map fun inner => items.set key (.table .dotted inner)
    | some (.table .path inner) =>
      if rest.length = 1 then none
      else (insert? rest value inner).map fun inner => items.set key (.table .path inner)
    | some (.tables earlier current) =>
      if rest.length = 1 then none
      else (insert? rest value current).map fun current => items.set key (.tables earlier current)
    | _ => none

def openTable? : (path : List String) → Items → Option Items
  | [], _ => none
  | [key], items =>
    match items.lookup key with
    | none => some (items.set key (.table .header []))
    | some (.table .path inner) => some (items.set key (.table .header inner))
    | _ => none
  | key :: rest, items =>
    match items.lookup key with
    | none => (openTable? rest []).map fun inner => items.set key (.table .path inner)
    | some (.table origin inner) =>
      (openTable? rest inner).map fun inner => items.set key (.table origin inner)
    | some (.tables earlier current) =>
      (openTable? rest current).map fun current => items.set key (.tables earlier current)
    | some (.value _) => none

def appendTable? : (path : List String) → Items → Option Items
  | [], _ => none
  | [key], items =>
    match items.lookup key with
    | none => some (items.set key (.tables [] []))
    | some (.tables earlier current) => some (items.set key (.tables (earlier ++ [current]) []))
    | _ => none
  | key :: rest, items =>
    match items.lookup key with
    | none => (appendTable? rest []).map fun inner => items.set key (.table .path inner)
    | some (.table origin inner) =>
      (appendTable? rest inner).map fun inner => items.set key (.table origin inner)
    | some (.tables earlier current) =>
      (appendTable? rest current).map fun current => items.set key (.tables earlier current)
    | some (.value _) => none

def insertUnder? : (path key : List String) → Value → Items → Option Items
  | [], key, value, items => items.insert? key value
  | step :: path, key, value, items =>
    match items.lookup step with
    | some (.table origin inner) =>
      (insertUnder? path key value inner).map fun inner => items.set step (.table origin inner)
    | some (.tables earlier current) =>
      (insertUnder? path key value current).map fun current => items.set step (.tables earlier current)
    | _ => none

end Items

mutual

def Item.toValue : Item → Value
  | .value value => value
  | .table _ items => .table (fieldsOf items)
  | .tables earlier current => .array (tablesOf earlier ++ [.table (fieldsOf current)])

def fieldsOf : List (String × Item) → List (String × Value)
  | [] => []
  | (key, item) :: rest => (key, item.toValue) :: fieldsOf rest

def tablesOf : List (List (String × Item)) → List Value
  | [] => []
  | items :: rest => .table (fieldsOf items) :: tablesOf rest

end

end LeaseQueue.Toml
