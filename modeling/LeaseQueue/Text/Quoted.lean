import LeaseQueue.Text.Hex
import LeaseQueue.Text.Hidden

/-!
Text between double quotes, for diagnostics. Quotes, backslashes, line breaks, tabs and NUL have
short escapes, and a hidden character is shown by its code.
-/

namespace LeaseQueue.Text.Quoted

def escape (c : Char) : List Char :=
  match c with
  | '\x00' => ['\\', '0']
  | '\t' => ['\\', 't']
  | '\n' => ['\\', 'n']
  | '\r' => ['\\', 'r']
  | '"' => ['\\', '"']
  | '\\' => ['\\', '\\']
  | c =>
    if isHidden c then '\\' :: 'u' :: Char.ofNat 0x7B :: (Hex.unpadded c.toNat ++ [Char.ofNat 0x7D])
    else [c]

def encode (text : String) : String :=
  String.ofList ('"' :: (text.toList.flatMap escape ++ ['"']))

def encodeOption : Option String → String
  | none => "None"
  | some text => "Some(" ++ encode text ++ ")"

def record (name : String) (parts : List (String × String)) : String :=
  name ++ " \x7b " ++ ", ".intercalate (parts.map fun (part, shown) => part ++ ": " ++ shown)
    ++ " \x7d"

end LeaseQueue.Text.Quoted
