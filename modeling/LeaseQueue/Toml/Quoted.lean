import LeaseQueue.Text.Hex

/-!
TOML strings: between double quotes, where a backslash begins an escape, or between single quotes,
where it does not; on one line, or on several between tripled quotes.
-/

namespace LeaseQueue.Toml.Quoted

open LeaseQueue.Text

def isPlain (c : Char) : Bool := c == '\t' || (0x20 ≤ c.toNat && c.toNat != 0x7F)

def simpleEscape? (c : Char) : Option Char :=
  match c with
  | 'b' => some '\x08'
  | 't' => some '\t'
  | 'n' => some '\n'
  | 'f' => some '\x0c'
  | 'r' => some '\r'
  | 'e' => some '\x1b'
  | '"' => some '"'
  | '\\' => some '\\'
  | _ => none

def coded? (digits : List Char) : Option Char := do
  let code ← Hex.value? digits
  if code.isValidChar then some (Char.ofNat code) else none

abbrev Found := List Char × List Char

def Found.after (c : Char) (found : Found) : Found := (c :: found.1, found.2)

def basic? : List Char → Option Found
  | [] => none
  | '"' :: rest => some ([], rest)
  | '\\' :: 'x' :: a :: b :: rest => do return (← basic? rest).after (← coded? [a, b])
  | '\\' :: 'u' :: a :: b :: c :: d :: rest => do
    return (← basic? rest).after (← coded? [a, b, c, d])
  | '\\' :: 'U' :: a :: b :: c :: d :: e :: f :: g :: h :: rest => do
    return (← basic? rest).after (← coded? [a, b, c, d, e, f, g, h])
  | '\\' :: letter :: rest => do return (← basic? rest).after (← simpleEscape? letter)
  | c :: rest => if isPlain c && c != '\\' then (basic? rest).map (.after c) else none

def literal? : List Char → Option Found
  | [] => none
  | '\'' :: rest => some ([], rest)
  | c :: rest => if isPlain c then (literal? rest).map (.after c) else none

/-- Where the reader of a string on several lines stands: in the text; after a backslash that has to
end its line; or at blanks and line ends that such a backslash takes away. -/
inductive Margin where
  | text
  | lineEnd
  | skipping

/-- The rest of a string after its three opening double quotes. One or two quotes may stand before
the closing three. -/
def multiBasic? : Margin → List Char → Option Found
  | _, [] => none
  | .lineEnd, c :: rest =>
    if c == ' ' || c == '\t' then multiBasic? .lineEnd rest
    else
      match c, rest with
      | '\n', rest => multiBasic? .skipping rest
      | '\r', '\n' :: rest => multiBasic? .skipping rest
      | _, _ => none
  | .skipping, ' ' :: rest => multiBasic? .skipping rest
  | .skipping, '\t' :: rest => multiBasic? .skipping rest
  | .skipping, '\n' :: rest => multiBasic? .skipping rest
  | .skipping, '\r' :: '\n' :: rest => multiBasic? .skipping rest
  | _, '"' :: '"' :: '"' :: '"' :: '"' :: rest => some (['"', '"'], rest)
  | _, '"' :: '"' :: '"' :: '"' :: rest => some (['"'], rest)
  | _, '"' :: '"' :: '"' :: rest => some ([], rest)
  | _, '\\' :: 'x' :: a :: b :: rest => do
    return (← multiBasic? .text rest).after (← coded? [a, b])
  | _, '\\' :: 'u' :: a :: b :: c :: d :: rest => do
    return (← multiBasic? .text rest).after (← coded? [a, b, c, d])
  | _, '\\' :: 'U' :: a :: b :: c :: d :: e :: f :: g :: h :: rest => do
    return (← multiBasic? .text rest).after (← coded? [a, b, c, d, e, f, g, h])
  | _, '\\' :: '\n' :: rest => multiBasic? .skipping rest
  | _, '\\' :: '\r' :: '\n' :: rest => multiBasic? .skipping rest
  | _, '\\' :: ' ' :: rest => multiBasic? .lineEnd rest
  | _, '\\' :: '\t' :: rest => multiBasic? .lineEnd rest
  | _, '\\' :: letter :: rest => do
    return (← multiBasic? .text rest).after (← simpleEscape? letter)
  | _, '\n' :: rest => (multiBasic? .text rest).map (.after '\n')
  | _, '\r' :: '\n' :: rest => (multiBasic? .text rest).map fun found => (found.after '\n').after '\r'
  | _, c :: rest => if isPlain c && c != '\\' then (multiBasic? .text rest).map (.after c) else none

def multiLiteral? : List Char → Option Found
  | [] => none
  | '\'' :: '\'' :: '\'' :: '\'' :: '\'' :: rest => some (['\'', '\''], rest)
  | '\'' :: '\'' :: '\'' :: '\'' :: rest => some (['\''], rest)
  | '\'' :: '\'' :: '\'' :: rest => some ([], rest)
  | '\n' :: rest => (multiLiteral? rest).map (.after '\n')
  | '\r' :: '\n' :: rest => (multiLiteral? rest).map fun found => (found.after '\n').after '\r'
  | c :: rest => if isPlain c then (multiLiteral? rest).map (.after c) else none

def dropLineEnd : List Char → List Char
  | '\n' :: rest => rest
  | '\r' :: '\n' :: rest => rest
  | rest => rest

def single? : List Char → Option Found
  | '"' :: rest => basic? rest
  | '\'' :: rest => literal? rest
  | _ => none

def read? : List Char → Option Found
  | '"' :: '"' :: '"' :: rest => multiBasic? .text (dropLineEnd rest)
  | '\'' :: '\'' :: '\'' :: rest => multiLiteral? (dropLineEnd rest)
  | text => single? text

end LeaseQueue.Toml.Quoted
