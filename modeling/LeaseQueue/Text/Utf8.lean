/-!
UTF-8. `pieces` reads any bytes: characters where they are UTF-8, and a broken piece for each
longest stretch that begins a character but does not finish it, or for a byte that begins none.
-/

namespace LeaseQueue.Text

inductive Piece where
  | char (c : Char)
  | broken
deriving DecidableEq, Inhabited

def Piece.ofString (text : String) : List Piece := text.toList.map Piece.char

namespace Utf8

def encodeChar (c : Char) : List UInt8 :=
  let code := c.toNat
  if code < 0x80 then [code.toUInt8]
  else if code < 0x800 then [(0xC0 + code / 64).toUInt8, (0x80 + code % 64).toUInt8]
  else if code < 0x10000 then
    [(0xE0 + code / 4096).toUInt8, (0x80 + code / 64 % 64).toUInt8, (0x80 + code % 64).toUInt8]
  else
    [(0xF0 + code / 262144).toUInt8, (0x80 + code / 4096 % 64).toUInt8,
      (0x80 + code / 64 % 64).toUInt8, (0x80 + code % 64).toUInt8]

def encode (text : String) : List UInt8 := text.toList.flatMap encodeChar

/-- What a first byte announces: the bits it carries, how many bytes follow it, and the range of
the next one. -/
structure Lead where
  bits : Nat
  owed : Nat
  low : Nat
  high : Nat

def Lead.of? (byte : Nat) : Option Lead :=
  if byte < 0xC2 then none
  else if byte ≤ 0xDF then some ⟨byte - 0xC0, 1, 0x80, 0xBF⟩
  else if byte = 0xE0 then some ⟨0, 2, 0xA0, 0xBF⟩
  else if byte = 0xED then some ⟨13, 2, 0x80, 0x9F⟩
  else if byte ≤ 0xEF then some ⟨byte - 0xE0, 2, 0x80, 0xBF⟩
  else if byte = 0xF0 then some ⟨0, 3, 0x90, 0xBF⟩
  else if byte ≤ 0xF3 then some ⟨byte - 0xF0, 3, 0x80, 0xBF⟩
  else if byte = 0xF4 then some ⟨4, 3, 0x80, 0x8F⟩
  else none

def finish : (owed low high bits : Nat) → List UInt8 → Piece × List UInt8
  | 0, _, _, bits, rest => (.char (Char.ofNat bits), rest)
  | _ + 1, _, _, _, [] => (.broken, [])
  | owed + 1, low, high, bits, byte :: rest =>
    if low ≤ byte.toNat ∧ byte.toNat ≤ high then
      finish owed 0x80 0xBF (bits * 64 + (byte.toNat - 0x80)) rest
    else (.broken, byte :: rest)

def next (byte : UInt8) (rest : List UInt8) : Piece × List UInt8 :=
  if byte.toNat < 0x80 then (.char (Char.ofNat byte.toNat), rest)
  else
    match Lead.of? byte.toNat with
    | none => (.broken, rest)
    | some lead => finish lead.owed lead.low lead.high lead.bits rest

theorem finish_length_le (owed low high bits : Nat) (bytes : List UInt8) :
    (finish owed low high bits bytes).2.length ≤ bytes.length := by
  induction owed generalizing low high bits bytes with
  | zero => simp [finish]
  | succ owed ih =>
      cases bytes with
      | nil => simp [finish]
      | cons byte rest =>
          simp only [finish]
          split
          · exact Nat.le_trans (ih _ _ _ rest) (by simp)
          · simp

theorem next_length_le (byte : UInt8) (rest : List UInt8) :
    (next byte rest).2.length ≤ rest.length := by
  unfold next
  split
  · simp
  · split
    · simp
    · exact finish_length_le _ _ _ _ rest

def pieces : List UInt8 → List Piece
  | [] => []
  | byte :: rest => (next byte rest).1 :: pieces (next byte rest).2
termination_by bytes => bytes.length
decreasing_by exact Nat.lt_succ_of_le (next_length_le byte rest)

def shown : Piece → Char
  | .char c => c
  | .broken => Char.ofNat 0xFFFD

def lossy (bytes : List UInt8) : String := String.ofList ((pieces bytes).map shown)

/-- Holds of bytes that are UTF-8 throughout. -/
def isValid (bytes : List UInt8) : Bool := (pieces bytes).all (· != .broken)

def decode? (bytes : List UInt8) : Option String :=
  if isValid bytes then some (lossy bytes) else none

end Utf8

end LeaseQueue.Text
