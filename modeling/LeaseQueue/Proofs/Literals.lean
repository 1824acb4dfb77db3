import LeaseQueue.Json.Value

/-!
String literals and whole numbers are read as they were written, whatever comes after them.
-/

namespace LeaseQueue

namespace Text.Hex

theorem digitValue?_digit : ∀ value < 16, digitValue? (digit value) = some value := by decide

theorem foldlM_padded (width value start : Nat) :
    (padded width value).foldlM (fun value c => (digitValue? c).map (value * 16 + ·)) start =
      some (start * Nat.pow 16 width + value % Nat.pow 16 width) := by
  induction width generalizing value with
  | zero => simp [padded, Nat.mod_one]
  | succ width ih =>
      have last := digitValue?_digit (value % 16) (Nat.mod_lt _ (by decide))
      have split : value % (16 * Nat.pow 16 width) =
          value % 16 + 16 * (value / 16 % Nat.pow 16 width) := Nat.mod_mul
      rw [padded, List.foldlM_append, ih]
      simp only [Option.bind_eq_bind, Option.bind_some, List.foldlM_cons, List.foldlM_nil, last,
        Option.map_some, Option.pure_def, Option.some.injEq]
      change _ = start * (Nat.pow 16 width * 16) + value % (Nat.pow 16 width * 16)
      rw [Nat.mul_comm (Nat.pow 16 width) 16, split, Nat.add_mul, Nat.mul_left_comm, Nat.mul_comm 16]
      omega

theorem value?_padded {width value : Nat} (bound : value < Nat.pow 16 width) :
    value? (padded width value) = some value := by
  rw [value?, foldlM_padded, Nat.zero_mul, Nat.zero_add, Nat.mod_eq_of_lt bound]

end Text.Hex

open Text

namespace Json

def StringUnit.written (c : Char) : StringUnit :=
  match c with
  | '\x08' | '\x0c' | '\n' | '\r' | '\t' => .scalar c
  | c => if c.toNat < 0x20 then .escaped c.toNat else .scalar c

namespace Node

theorem stringRest_simple {e meant : Char} (means : simpleEscape? e = some meant) (rest : List Piece) :
    stringRest (.char '\\' :: .char e :: rest) =
      (stringRest rest).map fun (units, after) => (.scalar meant :: units, after) := by
  have named : e ≠ 'u' := by
    rintro rfl
    simp [simpleEscape?] at means
  rw [stringRest, means]
  · cases stringRest rest <;> rfl
  · simp [named]

theorem stringRest_code {code : Nat} (bound : code < 0x10000) (rest : List Piece) :
    stringRest ((.char '\\' :: .char 'u' :: (Hex.padded 4 code).map Piece.char) ++ rest) =
      (stringRest rest).map fun (units, after) => (.escaped code :: units, after) := by
  have read := Hex.value?_padded (show code < Nat.pow 16 4 from bound)
  simp only [Hex.padded, List.nil_append, List.cons_append] at read
  simp only [Hex.padded, List.nil_append, List.cons_append, List.map_cons, List.map_nil, stringRest, read]
  cases stringRest rest <;> rfl

theorem stringRest_plain {c : Char} (shown : 0x20 ≤ c.toNat) (quote : c ≠ '"') (backslash : c ≠ '\\')
    (rest : List Piece) :
    stringRest (.char c :: rest) =
      (stringRest rest).map fun (units, after) => (.scalar c :: units, after) := by
  rw [stringRest]
  · simp [Nat.not_lt.mpr shown, backslash]
  all_goals simp [quote, backslash]

theorem stringRest_escape (c : Char) (rest : List Piece) :
    stringRest ((Value.escape c).map Piece.char ++ rest) =
      (stringRest rest).map fun (units, after) => (.written c :: units, after) := by
  unfold Value.escape
  split
  -- All others have an escape of their own.
  case h_8 quote backslash back feed line ret tab =>
    have written : StringUnit.written c =
        if c.toNat < 0x20 then .escaped c.toNat else .scalar c := by
      unfold StringUnit.written
      split <;> first | rfl | contradiction
    by_cases control : c.toNat < 0x20
    · rw [if_pos control, written, if_pos control]
      exact stringRest_code (by omega) rest
    · rw [if_neg control, written, if_neg control]
      exact stringRest_plain (by omega) quote backslash rest
  all_goals exact stringRest_simple rfl rest

theorem stringRest_escapes (text : List Char) (rest : List Piece) :
    stringRest ((text.flatMap Value.escape ++ ['"']).map Piece.char ++ rest) =
      some (text.map StringUnit.written, rest) := by
  induction text with
  | nil => simp [stringRest]
  | cons c others ih =>
      have split : ((c :: others).flatMap Value.escape ++ ['"']).map Piece.char ++ rest =
          (Value.escape c).map Piece.char ++
            ((others.flatMap Value.escape ++ ['"']).map Piece.char ++ rest) := by simp
      rw [split, stringRest_escape, ih]
      rfl

end Node

namespace StringUnit

theorem chars?_escaped {unit : Nat} (low : unit < 0xD800) (rest : List StringUnit) :
    chars? (.escaped unit :: rest) = (chars? rest).map (Char.ofNat unit :: ·) := by
  cases rest with
  | nil => simp [chars?, low]
  | cons next others => cases next <;> simp [chars?, low]

theorem chars?_written (c : Char) (rest : List StringUnit) :
    chars? (written c :: rest) = (chars? rest).map (c :: ·) := by
  have same : Char.ofNat c.toNat = c := Char.ofNat_toNat c
  unfold written
  split
  case h_6 =>
    by_cases control : c.toNat < 0x20
    · rw [if_pos control, chars?_escaped (by omega), same]
    · rw [if_neg control, chars?]
  all_goals rw [chars?]

theorem text?_written (text : String) : text? (text.toList.map written) = some text := by
  have chars (units : List Char) : chars? (units.map written) = some units := by
    induction units with
    | nil => rfl
    | cons c rest ih => rw [List.map_cons, chars?_written, ih, Option.map_some]
  rw [text?, chars, Option.map_some, String.ofList_toList]

end StringUnit

namespace Numeral

def decimals (number : Nat) : List Nat := (Nat.toDigits 10 number).map fun c => c.toNat - '0'.toNat

theorem decimals_of_lt {number : Nat} (small : number < 10) : decimals number = [number] := by
  rw [decimals, Nat.toDigits_of_lt_base small, List.map_singleton]
  exact congrArg (· :: []) (Nat.toNat_digitChar_sub_48_of_lt_ten small)

theorem decimals_of_le {number : Nat} (large : 10 ≤ number) :
    decimals number = decimals (number / 10) ++ [number % 10] := by
  have last := Nat.toNat_digitChar_sub_48_of_lt_ten (Nat.mod_lt number (show 0 < 10 by decide))
  rw [decimals, Nat.toDigits_of_base_le (by decide) large, List.map_append, List.map_singleton]
  exact congrArg (decimals (number / 10) ++ [·]) last

theorem natOfDigits_decimals (number : Nat) : natOfDigits (decimals number) = number := by
  induction number using Nat.strongRecOn with
  | ind number ih =>
      by_cases small : number < 10
      · simp [decimals_of_lt small, natOfDigits]
      · have shorter := ih (number / 10) (by omega)
        unfold natOfDigits at shorter ⊢
        rw [decimals_of_le (by omega), List.foldl_append, shorter]
        simp only [List.foldl_cons, List.foldl_nil]
        omega

theorem decimals_first {number : Nat} (positive : 0 < number) :
    ∃ first rest, decimals number = first :: rest ∧ first ≠ 0 := by
  induction number using Nat.strongRecOn with
  | ind number ih =>
      by_cases small : number < 10
      · exact ⟨number, [], decimals_of_lt small, by omega⟩
      · obtain ⟨first, rest, split, other⟩ := ih (number / 10) (by omega) (by omega)
        exact ⟨first, rest ++ [number % 10], by rw [decimals_of_le (by omega), split]; rfl, other⟩

theorem toDigits_cons (number : Nat) :
    ∃ c others, Nat.toDigits 10 number = c :: others ∧ c.isDigit = true := by
  cases written : Nat.toDigits 10 number with
  | nil => exact absurd written Nat.toDigits_ne_nil
  | cons c others =>
      exact ⟨c, others, rfl,
        Nat.isDigit_of_mem_toDigits (by decide) (by decide) (written ▸ List.mem_cons_self)⟩

def ofInt (value : Int) : Numeral := ⟨value < 0, decimals value.natAbs, [], none⟩

theorem value?_ofInt {value : Int} (least : -(Int.pow 2 63) ≤ value) (most : value < UInt64.size) :
    (ofInt value).value? = some (.int value) := by
  have low : -9223372036854775808 ≤ value := least
  have high : value < 18446744073709551616 := most
  unfold value? ofInt
  rw [natOfDigits_decimals]
  by_cases negative : value < 0
  · have bounds : value.natAbs ≠ 0 ∧ value.natAbs ≤ Nat.pow 2 63 := by
      change value.natAbs ≠ 0 ∧ value.natAbs ≤ 9223372036854775808
      omega
    simp only [negative, decide_true, bounds, ne_eq, if_true, and_self, not_false_eq_true]
    congr
    omega
  · have bound : value.natAbs < UInt64.size := by
      change value.natAbs < 18446744073709551616
      omega
    simp only [negative, decide_false, bound, Bool.false_eq_true, if_true, if_false, and_self]
    congr
    omega

end Numeral

namespace Node

/-- What can come after a value in a document without being taken for a part of it. -/
inductive Ends : List Piece → Prop
  | last : Ends []
  | comma (rest : List Piece) : Ends (.char ',' :: rest)
  | bracket (rest : List Piece) : Ends (.char ']' :: rest)
  | brace (rest : List Piece) : Ends (.char '}' :: rest)

theorem digitValue?_of_isDigit {c : Char} (digit : c.isDigit = true) :
    digitValue? c = some (c.toNat - '0'.toNat) := by
  have bounds : '0' ≤ c ∧ c ≤ '9' := by simpa [Char.isDigit, Char.le_def] using digit
  rw [digitValue?, if_pos bounds]

theorem digits_append {written : List Char} (all : ∀ c ∈ written, c.isDigit = true)
    {rest : List Piece} (ends : Ends rest) :
    digits (written.map Piece.char ++ rest) = (written.map fun c => c.toNat - '0'.toNat, rest) := by
  induction written with
  | nil => cases ends <;> rfl
  | cons c others ih =>
      have later := ih fun other member => all other (List.mem_cons_of_mem _ member)
      rw [List.map_cons, List.cons_append, digits, digitValue?_of_isDigit (all c List.mem_cons_self)]
      simp only [later]
      rfl

theorem unsigned?_written (negative : Bool) (number : Nat) {rest : List Piece} (ends : Ends rest) :
    unsigned? negative ((Nat.toDigits 10 number).map Piece.char ++ rest) =
      some (⟨negative, Numeral.decimals number, [], none⟩, rest) := by
  have read : digits ((Nat.toDigits 10 number).map Piece.char ++ rest) =
      (Numeral.decimals number, rest) :=
    digits_append (fun _ => Nat.isDigit_of_mem_toDigits (by decide) (by decide)) ends
  have whole : wholeDigits? ((Nat.toDigits 10 number).map Piece.char ++ rest) =
      some (Numeral.decimals number, rest) := by
    rw [wholeDigits?, read]
    by_cases zero : number = 0
    · simp [zero, Numeral.decimals_of_lt]
    · obtain ⟨first, others, split, other⟩ := Numeral.decimals_first (Nat.pos_of_ne_zero zero)
      rw [split]
      cases others <;> simp [other]
  have fraction : fraction? rest = some ([], rest) := by cases ends <;> rfl
  have exponent : exponent? rest = some (none, rest) := by cases ends <;> rfl
  simp only [unsigned?, whole, fraction, exponent, Option.bind_eq_bind, Option.bind_some]

theorem numeral?_written (value : Int) {rest : List Piece} (ends : Ends rest) :
    numeral? ((toString value).toList.map Piece.char ++ rest) = some (.ofInt value, rest) := by
  rw [Int.toString_eq_repr, Int.repr_eq_if, Numeral.ofInt]
  by_cases positive : 0 ≤ value
  · have same : value.natAbs = value.toNat := by omega
    rw [if_pos positive, Nat.toList_repr, same, decide_eq_false (by omega)]
    have unsigned := unsigned?_written false value.toNat ends
    obtain ⟨c, others, written, digit⟩ := Numeral.toDigits_cons value.toNat
    have sign : c ≠ '-' := by
      rintro rfl
      exact absurd digit (by decide)
    rw [written, List.map_cons, List.cons_append] at unsigned ⊢
    rw [numeral?]
    · exact unsigned
    · simpa using sign
  · have same : value.natAbs = (-value).toNat := by omega
    rw [if_neg positive, String.toList_append, Nat.toList_repr, same, decide_eq_true (by omega)]
    exact unsigned?_written true (-value).toNat ends

end Node

end Json

end LeaseQueue
