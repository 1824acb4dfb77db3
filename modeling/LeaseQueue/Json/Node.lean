import LeaseQueue.Text.Hex
import LeaseQueue.Text.Utf8

/-!
The syntax of a JSON document. A `Node` keeps strings and numerals as they are written, so that a
part nobody asks for is checked for its grammar alone. `Node.read?` reads one whole document.
-/

namespace LeaseQueue.Json

open LeaseQueue.Text

/-- One unit of a string literal: a character, a UTF-16 unit written as an escape, or bytes that are
no character. -/
inductive StringUnit where
  | scalar (c : Char)
  | escaped (unit : Nat)
  | broken
deriving DecidableEq

structure Numeral where
  negative : Bool
  whole : List Nat
  fraction : List Nat
  exponent : Option (Bool × List Nat)
deriving DecidableEq

inductive Node where
  | null
  | bool (value : Bool)
  | number (numeral : Numeral)
  | string (units : List StringUnit)
  | array (items : List Node)
  | object (fields : List (List StringUnit × Node))

namespace Node

def isSpace (c : Char) : Bool := c == ' ' || c == '\n' || c == '\t' || c == '\r'

def skipSpace : List Piece → List Piece
  | .char c :: rest => if isSpace c then skipSpace rest else .char c :: rest
  | rest => rest

def after? : List Char → List Piece → Option (List Piece)
  | [], rest => some rest
  | c :: word, .char d :: rest => if c = d then after? word rest else none
  | _ :: _, _ => none

/-- The character that an escape other than `\u` stands for. -/
def simpleEscape? (c : Char) : Option Char :=
  match c with
  | '"' => some '"'
  | '\\' => some '\\'
  | '/' => some '/'
  | 'b' => some '\x08'
  | 'f' => some '\x0c'
  | 'n' => some '\n'
  | 'r' => some '\r'
  | 't' => some '\t'
  | _ => none

def stringRest : List Piece → Option (List StringUnit × List Piece)
  | [] => none
  | .broken :: rest => (stringRest rest).map fun (units, after) => (.broken :: units, after)
  | .char '"' :: rest => some ([], rest)
  | .char '\\' :: .char 'u' :: .char a :: .char b :: .char c :: .char d :: rest => do
    let unit ← Hex.value? [a, b, c, d]
    let (units, after) ← stringRest rest
    some (.escaped unit :: units, after)
  | .char '\\' :: .char e :: rest => do
    let meant ← simpleEscape? e
    let (units, after) ← stringRest rest
    some (.scalar meant :: units, after)
  | .char c :: rest =>
    if c.toNat < 0x20 || c == '\\' then none
    else (stringRest rest).map fun (units, after) => (.scalar c :: units, after)

def digitValue? (c : Char) : Option Nat :=
  if '0' ≤ c ∧ c ≤ '9' then some (c.toNat - '0'.toNat) else none

def digits : List Piece → List Nat × List Piece
  | .char c :: rest =>
    match digitValue? c with
    | some value => (value :: (digits rest).1, (digits rest).2)
    | none => ([], .char c :: rest)
  | rest => ([], rest)

def someDigits? (text : List Piece) : Option (List Nat × List Piece) :=
  match digits text with
  | ([], _) => none
  | found => some found

def wholeDigits? (text : List Piece) : Option (List Nat × List Piece) :=
  match digits text with
  | ([], _) => none
  | (0 :: _ :: _, _) => none
  | found => some found

def fraction? : List Piece → Option (List Nat × List Piece)
  | .char '.' :: rest => someDigits? rest
  | rest => some ([], rest)

def exponentDigits? : List Piece → Option ((Bool × List Nat) × List Piece)
  | .char '+' :: rest => (someDigits? rest).map fun (found, after) => ((false, found), after)
  | .char '-' :: rest => (someDigits? rest).map fun (found, after) => ((true, found), after)
  | rest => (someDigits? rest).map fun (found, after) => ((false, found), after)

def exponent? : List Piece → Option (Option (Bool × List Nat) × List Piece)
  | .char 'e' :: rest => (exponentDigits? rest).map fun (found, after) => (some found, after)
  | .char 'E' :: rest => (exponentDigits? rest).map fun (found, after) => (some found, after)
  | rest => some (none, rest)

def unsigned? (negative : Bool) (text : List Piece) : Option (Numeral × List Piece) := do
  let (whole, text) ← wholeDigits? text
  let (fraction, text) ← fraction? text
  let (exponent, text) ← exponent? text
  some (⟨negative, whole, fraction, exponent⟩, text)

def numeral? : List Piece → Option (Numeral × List Piece)
  | .char '-' :: rest => unsigned? true rest
  | rest => unsigned? false rest

mutual

def readNode : (fuel : Nat) → List Piece → Option (Node × List Piece)
  | 0, _ => none
  | fuel + 1, text =>
    match skipSpace text with
    | .char 'n' :: rest => (after? ['u', 'l', 'l'] rest).map fun after => (.null, after)
    | .char 't' :: rest => (after? ['r', 'u', 'e'] rest).map fun after => (.bool true, after)
    | .char 'f' :: rest => (after? ['a', 'l', 's', 'e'] rest).map fun after => (.bool false, after)
    | .char '"' :: rest => (stringRest rest).map fun (units, after) => (.string units, after)
    | .char '[' :: rest =>
      match skipSpace rest with
      | .char ']' :: after => some (.array [], after)
      | _ => (readItems fuel rest).map fun (items, after) => (.array items, after)
    | .char '{' :: rest =>
      match skipSpace rest with
      | .char '}' :: after => some (.object [], after)
      | _ => (readFields fuel rest).map fun (fields, after) => (.object fields, after)
    | rest => (numeral? rest).map fun (numeral, after) => (.number numeral, after)

def readItems : (fuel : Nat) → List Piece → Option (List Node × List Piece)
  | 0, _ => none
  | fuel + 1, text =>
    match readNode fuel text with
    | none => none
    | some (item, rest) =>
      match skipSpace rest with
      | .char ',' :: rest => (readItems fuel rest).map fun (items, after) => (item :: items, after)
      | .char ']' :: after => some ([item], after)
      | _ => none

def readFields : (fuel : Nat) → List Piece → Option (List (List StringUnit × Node) × List Piece)
  | 0, _ => none
  | fuel + 1, text =>
    match skipSpace text with
    | .char '"' :: rest =>
      match stringRest rest with
      | none => none
      | some (key, rest) =>
        match skipSpace rest with
        | .char ':' :: rest =>
          match readNode fuel rest with
          | none => none
          | some (value, rest) =>
            match skipSpace rest with
            | .char ',' :: rest =>
              (readFields fuel rest).map fun (fields, after) => ((key, value) :: fields, after)
            | .char '}' :: after => some ([(key, value)], after)
            | _ => none
        | _ => none
    | _ => none

end

/-- Twice the length of the text is more fuel than any document needs, since of two nested calls at
least one takes a piece off the text. -/
def read? (text : List Piece) : Option Node :=
  match readNode (2 * text.length + 2) text with
  | some (node, rest) => if skipSpace rest = [] then some node else none
  | none => none

end Node

end LeaseQueue.Json
