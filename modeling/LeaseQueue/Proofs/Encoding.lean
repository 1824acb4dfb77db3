import LeaseQueue.Text.Utf8

/-!
What UTF-8 writes it reads again: the bytes of a text are its characters, none of them broken.
-/

namespace LeaseQueue.Text.Utf8

theorem toNat_toUInt8 {value : Nat} (bound : value < 256) : value.toUInt8.toNat = value :=
  UInt8.toNat_ofNat_of_lt' bound

namespace Lead

theorem of?_two {part : Nat} (least : 2 ≤ part) (most : part < 32) :
    of? (0xC0 + part) = some ⟨part, 1, 0x80, 0xBF⟩ := by
  unfold of?
  rw [if_neg (by omega), if_pos (by omega), Nat.add_sub_cancel_left]

theorem of?_three {part : Nat} (most : part < 16) :
    of? (0xE0 + part) =
      some ⟨part, 2, if part = 0 then 0xA0 else 0x80, if part = 13 then 0x9F else 0xBF⟩ := by
  unfold of?
  rw [if_neg (by omega), if_neg (by omega)]
  -- The next byte rules out what two bytes can write, and the surrogates.
  by_cases first : part = 0
  · simp [first]
  · by_cases surrogate : part = 13
    · simp [surrogate]
    · rw [if_neg (by omega), if_neg (by omega), if_pos (by omega), if_neg first, if_neg surrogate,
        Nat.add_sub_cancel_left]

theorem of?_four {part : Nat} (most : part ≤ 4) :
    of? (0xF0 + part) =
      some ⟨part, 3, if part = 0 then 0x90 else 0x80, if part = 4 then 0x8F else 0xBF⟩ := by
  unfold of?
  rw [if_neg (by omega), if_neg (by omega), if_neg (by omega), if_neg (by omega), if_neg (by omega)]
  -- The next byte rules out what three bytes can write, and what lies beyond the last character.
  by_cases first : part = 0
  · simp [first]
  · by_cases last : part = 4
    · simp [last]
    · rw [if_neg (by omega), if_pos (by omega), if_neg first, if_neg last, Nat.add_sub_cancel_left]

end Lead

theorem finish_tail {low high part : Nat} (small : part < 64) (lower : low ≤ 0x80 + part)
    (upper : 0x80 + part ≤ high) (owed bits : Nat) (rest : List UInt8) :
    finish (owed + 1) low high bits ((0x80 + part).toUInt8 :: rest) =
      finish owed 0x80 0xBF (bits * 64 + part) rest := by
  rw [finish, toNat_toUInt8 (by omega), if_pos ⟨lower, upper⟩, Nat.add_sub_cancel_left]

theorem finish_any {part : Nat} (small : part < 64) (owed bits : Nat) (rest : List UInt8) :
    finish (owed + 1) 0x80 0xBF bits ((0x80 + part).toUInt8 :: rest) =
      finish owed 0x80 0xBF (bits * 64 + part) rest :=
  finish_tail small (by omega) (by omega) owed bits rest

theorem next_lead {byte bits owed low high : Nat} (large : 0x80 ≤ byte) (bound : byte < 256)
    (leads : Lead.of? byte = some ⟨bits, owed, low, high⟩) (rest : List UInt8) :
    next byte.toUInt8 rest = finish owed low high bits rest := by
  rw [next, toNat_toUInt8 bound, if_neg (by omega), leads]

theorem next_encodeChar (c : Char) (rest : List UInt8) :
    ∃ byte others, encodeChar c ++ rest = byte :: others ∧ next byte others = (.char c, rest) := by
  have valid : c.toNat < 0xD800 ∨ 0xDFFF < c.toNat ∧ c.toNat < 0x110000 := c.valid
  have same : Char.ofNat c.toNat = c := Char.ofNat_toNat c
  have read (bits : Nat) (equal : bits = c.toNat) :
      finish 0 0x80 0xBF bits rest = (.char c, rest) := by
    rw [finish, equal, same]
  unfold encodeChar
  generalize c.toNat = code at valid same read
  by_cases one : code < 0x80
  · refine ⟨code.toUInt8, rest, by simp [one], ?_⟩
    rw [next, toNat_toUInt8 (by omega), if_pos one, same]
  by_cases two : code < 0x800
  · refine ⟨_, _, by simp only [one, two, if_false, if_true, List.cons_append, List.nil_append]; rfl, ?_⟩
    rw [next_lead (by omega) (by omega) (Lead.of?_two (by omega) (by omega)), finish_any (by omega)]
    exact read _ (by omega)
  by_cases three : code < 0x10000
  · refine ⟨_, _,
      by simp only [one, two, three, if_false, if_true, List.cons_append, List.nil_append]; rfl, ?_⟩
    rw [next_lead (by omega) (by omega) (Lead.of?_three (by omega)),
      finish_tail (by omega) (by split <;> omega) (by split <;> omega), finish_any (by omega)]
    exact read _ (by omega)
  · refine ⟨_, _,
      by simp only [one, two, three, if_false, List.cons_append, List.nil_append]; rfl, ?_⟩
    rw [next_lead (by omega) (by omega) (Lead.of?_four (by omega)),
      finish_tail (by omega) (by split <;> omega) (by split <;> omega), finish_any (by omega),
      finish_any (by omega)]
    exact read _ (by omega)

theorem pieces_encodeChar (c : Char) (rest : List UInt8) :
    pieces (encodeChar c ++ rest) = .char c :: pieces rest := by
  obtain ⟨byte, others, split, read⟩ := next_encodeChar c rest
  rw [split, pieces, read]

theorem pieces_encode (text : String) : pieces (encode text) = Piece.ofString text := by
  unfold encode Piece.ofString
  induction text.toList with
  | nil => rw [List.flatMap_nil, pieces, List.map_nil]
  | cons c rest ih => rw [List.flatMap_cons, pieces_encodeChar, ih, List.map_cons]

theorem encode_inj {first second : String} : encode first = encode second ↔ first = second := by
  refine ⟨fun same => ?_, congrArg encode⟩
  have read := congrArg pieces same
  rw [pieces_encode, pieces_encode] at read
  exact String.toList_inj.mp ((List.map_inj_right fun _ _ => Piece.char.inj).mp read)

end LeaseQueue.Text.Utf8
