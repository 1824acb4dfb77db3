import LeaseQueue.Toml.Quoted
import LeaseQueue.Toml.Scalar
import LeaseQueue.Toml.Tables

/-!
TOML documents, version 1.1. `Toml.read?` reads a whole document as a table.
-/

namespace LeaseQueue.Toml

def skipBlanks : List Char → List Char
  | ' ' :: rest => skipBlanks rest
  | '\t' :: rest => skipBlanks rest
  | rest => rest

def skipComment? : List Char → Option (List Char)
  | [] => some []
  | '\n' :: rest => some ('\n' :: rest)
  | '\r' :: '\n' :: rest => some ('\r' :: '\n' :: rest)
  | c :: rest => if Quoted.isPlain c then skipComment? rest else none

def lineEnd? (text : List Char) : Option (List Char) := do
  let text ←
    match skipBlanks text with
    | '#' :: rest => skipComment? rest
    | rest => some rest
  match text with
  | [] => some []
  | '\n' :: rest => some rest
  | '\r' :: '\n' :: rest => some rest
  | _ => none

def skipLines? : (fuel : Nat) → List Char → Option (List Char)
  | 0, _ => none
  | fuel + 1, text =>
    match skipBlanks text with
    | '#' :: rest => (skipComment? rest).bind (skipLines? fuel)
    | '\n' :: rest => skipLines? fuel rest
    | '\r' :: '\n' :: rest => skipLines? fuel rest
    | rest => some rest

def isBareKeyChar (c : Char) : Bool := c.isAlphanum || c == '_' || c == '-'

def simpleKey? (text : List Char) : Option (String × List Char) :=
  match text with
  | '"' :: _ => (Quoted.single? text).map fun (key, rest) => (String.ofList key, rest)
  | '\'' :: _ => (Quoted.single? text).map fun (key, rest) => (String.ofList key, rest)
  | _ =>
    match text.span isBareKeyChar with
    | ([], _) => none
    | (key, rest) => some (String.ofList key, rest)

def keyParts? : (fuel : Nat) → List Char → Option (List String × List Char)
  | 0, _ => none
  | fuel + 1, text =>
    match simpleKey? (skipBlanks text) with
    | none => none
    | some (part, rest) =>
      match skipBlanks rest with
      | '.' :: rest => (keyParts? fuel rest).map fun (parts, rest) => (part :: parts, rest)
      | rest => some ([part], rest)

def mostParts : Nat := 80

def key? (fuel : Nat) (text : List Char) : Option (List String × List Char) :=
  (keyParts? fuel text).filter fun (parts, _) => parts.length ≤ mostParts

def pairHead? (fuel : Nat) (text : List Char) : Option (List String × List Char) := do
  let (key, rest) ← key? fuel text
  let '=' :: rest ← skipLines? fuel rest | none
  let rest ← skipLines? fuel rest
  some (key, rest)

mutual

/-- A value that opens at most `room` arrays and tables inside each other. -/
def value? : (fuel room : Nat) → List Char → Option (Value × List Char)
  | 0, _, _ => none
  | fuel + 1, room, text =>
    match text with
    | '"' :: _ => (Quoted.read? text).map fun (found, rest) => (.string (String.ofList found), rest)
    | '\'' :: _ => (Quoted.read? text).map fun (found, rest) => (.string (String.ofList found), rest)
    | '[' :: rest =>
      match room with
      | 0 => none
      | room + 1 => (items? fuel room rest).map fun (items, rest) => (.array items, rest)
    | '{' :: rest =>
      match room with
      | 0 => none
      | room + 1 => (pairs? fuel room [] rest).map fun (items, rest) => (.table (fieldsOf items), rest)
    | _ => Scalar.read? text

def items? : (fuel room : Nat) → List Char → Option (List Value × List Char)
  | 0, _, _ => none
  | fuel + 1, room, text =>
    match skipLines? (fuel + 1) text with
    | none => none
    | some (']' :: rest) => some ([], rest)
    | some text =>
      match value? fuel room text with
      | none => none
      | some (item, rest) =>
        match skipLines? (fuel + 1) rest with
        | some (',' :: rest) =>
          (items? fuel room rest).map fun (items, rest) => (item :: items, rest)
        | some (']' :: rest) => some ([item], rest)
        | _ => none

/-- The entries of a table between braces, up to and with the closing one. Line ends and comments may
stand anywhere but inside a key. -/
def pairs? : (fuel room : Nat) → Items → List Char → Option (Items × List Char)
  | 0, _, _, _ => none
  | fuel + 1, room, items, text =>
    match skipLines? (fuel + 1) text with
    | none => none
    | some ('}' :: rest) => some (items, rest)
    | some text =>
      match pairHead? (fuel + 1) text with
      | none => none
      | some (key, rest) =>
        match value? fuel room rest with
        | none => none
        | some (value, rest) =>
          match items.insert? key value with
          | none => none
          | some items =>
            match skipLines? (fuel + 1) rest with
            | some (',' :: rest) => pairs? fuel room items rest
            | some ('}' :: rest) => some (items, rest)
            | _ => none

end

structure Draft where
  items : Items := []
  opened : List String := []

def mostOpen : Nat := 80

def line? (fuel : Nat) (draft : Draft) (text : List Char) : Option (Draft × List Char) :=
  match skipBlanks text with
  | '[' :: '[' :: rest => do
    let (path, ']' :: ']' :: rest) ← key? fuel rest | none
    some ({ items := ← draft.items.appendTable? path, opened := path }, ← lineEnd? rest)
  | '[' :: rest => do
    let (path, ']' :: rest) ← key? fuel rest | none
    some ({ items := ← draft.items.openTable? path, opened := path }, ← lineEnd? rest)
  | text =>
    match lineEnd? text with
    | some rest => some (draft, rest)
    | none => do
      let (key, '=' :: rest) ← key? fuel text | none
      let (value, rest) ← value? fuel mostOpen (skipBlanks rest)
      some ({ draft with items := ← draft.items.insertUnder? draft.opened key value },
        ← lineEnd? rest)

def lines? : (fuel : Nat) → Draft → List Char → Option Draft
  | 0, _, _ => none
  | _ + 1, draft, [] => some draft
  | fuel + 1, draft, text => (line? (fuel + 1) draft text).bind fun (draft, rest) => lines? fuel draft rest

def dropMark : List Char → List Char
  | c :: rest => if c.toNat = 0xFEFF then rest else c :: rest
  | [] => []

/-- Twice the length of the text is more fuel than any document needs, since of two nested calls at
least one takes a character off the text. -/
def read? (text : String) : Option Value :=
  let text := dropMark text.toList
  (lines? (2 * text.length + 2) {} text).map fun draft => .table (fieldsOf draft.items)

end LeaseQueue.Toml
