/-!
Blank characters, and the words of a line between them.
-/

namespace LeaseQueue.Text

/-- The characters with the Unicode property `White_Space`. -/
def isBlank (c : Char) : Bool :=
  let code := c.toNat
  (0x9 ≤ code && code ≤ 0xD) || code == 0x20 || code == 0x85 || code == 0xA0 || code == 0x1680
    || (0x2000 ≤ code && code ≤ 0x200A) || code == 0x2028 || code == 0x2029 || code == 0x202F
    || code == 0x205F || code == 0x3000

def isBlankText (text : String) : Bool := text.toList.all isBlank

def words : List Char → List (List Char)
  | [] => []
  | c :: rest =>
    if isBlank c then words rest
    else
      match rest, words rest with
      | next :: _, word :: later => if isBlank next then [c] :: word :: later else (c :: word) :: later
      | _, later => [c] :: later

def joinWords (parts : List (List Char)) : List Char := [' '].intercalate parts

end LeaseQueue.Text
