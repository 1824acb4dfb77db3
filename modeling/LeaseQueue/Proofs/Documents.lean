import LeaseQueue.Proofs.Literals

/-!
A document that was written is read again, and its syntax is that of the value that was written.
-/

namespace LeaseQueue.Json

open LeaseQueue.Text

namespace Value

mutual

/-- Holds of a value that a text can say in full: it has no doubles, its numbers are 64-bit words, and no
object in it has two fields of one name. -/
def isExact : Value → Bool
  | .null | .bool _ | .string _ => true
  | .int value => -(Int.pow 2 63) ≤ value ∧ value < UInt64.size
  | .float _ => false
  | .array items => itemsExact items
  | .object fields => decide (fields.map Prod.fst).Nodup && fieldsExact fields

def itemsExact : List Value → Bool
  | [] => true
  | item :: rest => item.isExact && itemsExact rest

def fieldsExact : List (String × Value) → Bool
  | [] => true
  | (_, value) :: rest => value.isExact && fieldsExact rest

end

end Value

namespace Node

mutual

def ofValue : Value → Node
  | .null => .null
  | .bool value => .bool value
  | .int value => .number (.ofInt value)
  | .float _ => .null
  | .string text => .string (text.toList.map StringUnit.written)
  | .array items => .array (ofItems items)
  | .object fields => .object (ofFields fields)

def ofItems : List Value → List Node
  | [] => []
  | item :: rest => ofValue item :: ofItems rest

def ofFields : List (String × Value) → List (List StringUnit × Node)
  | [] => []
  | (key, value) :: rest => (key.toList.map StringUnit.written, ofValue value) :: ofFields rest

end

section Steps

variable {text others rest : List Piece} {fuel : Nat} {node : Node} {nodes : List Node}
  {key : List StringUnit} {fields : List (List StringUnit × Node)}

theorem skipSpace_of_not {c : Char} (solid : isSpace c = false) (rest : List Piece) :
    skipSpace (.char c :: rest) = .char c :: rest := by
  simp [skipSpace, solid]

theorem readNode_array {c : Char} (solid : isSpace c = false) (inside : c ≠ ']')
    (read : readItems fuel (.char c :: others) = some (nodes, rest)) :
    readNode (fuel + 1) (.char '[' :: .char c :: others) = some (.array nodes, rest) := by
  rw [readNode, skipSpace_of_not (by decide)]
  simp only [skipSpace_of_not solid, read, Option.map_some]
  split
  · rename_i same
    simp [inside] at same
  · rfl

theorem readNode_object (read : readFields fuel (.char '"' :: others) = some (fields, rest)) :
    readNode (fuel + 1) (.char '{' :: .char '"' :: others) = some (.object fields, rest) := by
  rw [readNode, skipSpace_of_not (by decide)]
  simp only [skipSpace_of_not (show isSpace '"' = false by decide), read]
  rfl

theorem readItems_last (read : readNode fuel text = some (node, .char ']' :: rest)) :
    readItems (fuel + 1) text = some ([node], rest) := by
  rw [readItems, read]
  simp only [skipSpace_of_not (show isSpace ']' = false by decide)]

theorem readItems_more (read : readNode fuel text = some (node, .char ',' :: others))
    (later : readItems fuel others = some (nodes, rest)) :
    readItems (fuel + 1) text = some (node :: nodes, rest) := by
  rw [readItems, read]
  simp only [skipSpace_of_not (show isSpace ',' = false by decide), later, Option.map_some]

theorem readFields_last (named : stringRest text = some (key, .char ':' :: others))
    (read : readNode fuel others = some (node, .char '}' :: rest)) :
    readFields (fuel + 1) (.char '"' :: text) = some ([(key, node)], rest) := by
  rw [readFields, skipSpace_of_not (by decide)]
  simp only [named, skipSpace_of_not (show isSpace ':' = false by decide), read,
    skipSpace_of_not (show isSpace '}' = false by decide)]

theorem readFields_more {remaining : List Piece}
    (named : stringRest text = some (key, .char ':' :: others))
    (read : readNode fuel others = some (node, .char ',' :: remaining))
    (later : readFields fuel remaining = some (fields, rest)) :
    readFields (fuel + 1) (.char '"' :: text) = some ((key, node) :: fields, rest) := by
  rw [readFields, skipSpace_of_not (by decide)]
  simp only [named, skipSpace_of_not (show isSpace ':' = false by decide), read,
    skipSpace_of_not (show isSpace ',' = false by decide), later, Option.map_some]

theorem readNode_string (text : String) (rest : List Piece) (fuel : Nat) :
    readNode (fuel + 1) ((Value.quote text).map Piece.char ++ rest) =
      some (.string (text.toList.map StringUnit.written), rest) := by
  have read := stringRest_escapes text.toList rest
  rw [Value.quote, List.map_cons, List.cons_append, readNode, skipSpace_of_not (by decide)]
  simp only [read, Option.map_some]

end Steps

theorem toString_cons (value : Int) :
    ∃ c others, (toString value).toList = c :: others ∧ (c = '-' ∨ c.isDigit = true) := by
  rw [Int.toString_eq_repr, Int.repr_eq_if]
  by_cases positive : 0 ≤ value
  · obtain ⟨c, others, written, digit⟩ := Numeral.toDigits_cons value.toNat
    exact ⟨c, others, by rw [if_pos positive, Nat.toList_repr, written], .inr digit⟩
  · exact ⟨'-', (-value).toNat.repr.toList, by rw [if_neg positive, String.toList_append]; rfl, .inl rfl⟩

theorem ne_of_numeric {c other : Char} (first : c = '-' ∨ c.isDigit = true)
    (strange : other ≠ '-' ∧ other.isDigit = false) : c ≠ other := by
  rintro rfl
  rcases first with sign | digit
  · exact strange.1 sign
  · simp [strange.2] at digit

theorem isSpace_of_numeric {c : Char} (first : c = '-' ∨ c.isDigit = true) : isSpace c = false := by
  have other {blank : Char} (strange : blank ≠ '-' ∧ blank.isDigit = false) : (c == blank) = false :=
    beq_false_of_ne (ne_of_numeric first strange)
  simp only [isSpace, other (by decide : ' ' ≠ '-' ∧ _), other (by decide : '\n' ≠ '-' ∧ _),
    other (by decide : '\t' ≠ '-' ∧ _), other (by decide : '\r' ≠ '-' ∧ _), Bool.or_self]

theorem readNode_int (value : Int) {rest : List Piece} (ends : Ends rest) (fuel : Nat) :
    readNode (fuel + 1) ((toString value).toList.map Piece.char ++ rest) =
      some (.number (.ofInt value), rest) := by
  have read := numeral?_written value ends
  obtain ⟨c, others, written, first⟩ := toString_cons value
  rw [written, List.map_cons, List.cons_append] at read ⊢
  rw [readNode, skipSpace_of_not (isSpace_of_numeric first)]
  split
  -- No other syntax begins with a digit or a sign.
  case h_7 => rw [read, Option.map_some]
  all_goals
    rename_i same
    injection same with same _
    injection same with same
    exact absurd same (ne_of_numeric first (by decide))

theorem write_cons (value : Value) (exact : value.isExact = true) :
    ∃ c others, value.write = c :: others ∧ isSpace c = false ∧ c ≠ ']' := by
  cases value with
  | int value =>
      obtain ⟨c, others, written, first⟩ := toString_cons value
      exact ⟨c, others, written, isSpace_of_numeric first, ne_of_numeric first (by decide)⟩
  | bool value => cases value <;> exact ⟨_, _, rfl, by decide, by decide⟩
  | float value => simp [Value.isExact] at exact
  | null | string text | array items | object fields => exact ⟨_, _, rfl, by decide, by decide⟩

theorem writeItems_cons (item : Value) (rest : List Value) (exact : item.isExact = true) :
    ∃ c others, Value.writeItems (item :: rest) = c :: others ∧ isSpace c = false ∧ c ≠ ']' := by
  obtain ⟨c, others, written, begins⟩ := write_cons item exact
  cases rest with
  | nil => exact ⟨c, others ++ [']'], by rw [Value.writeItems, written]; rfl, begins⟩
  | cons next later =>
      exact ⟨c, others ++ ',' :: Value.writeItems (next :: later),
        by simp [Value.writeItems, written], begins⟩

theorem writeFields_cons (field : String × Value) (rest : List (String × Value)) :
    ∃ others, Value.writeFields (field :: rest) = '"' :: others := by
  cases rest <;> exact ⟨_, rfl⟩

mutual

-- Of two nested calls at least one takes a character, so twice the length is enough.
theorem readNode_write {rest : List Piece} (ends : Ends rest) : (value : Value) →
    value.isExact = true → (fuel : Nat) → 2 * value.write.length ≤ fuel →
    readNode fuel (value.write.map Piece.char ++ rest) = some (ofValue value, rest)
  | value, exact, 0, enough => by
      obtain ⟨c, others, written, _⟩ := write_cons value exact
      simp [written] at enough
  | .null, _, fuel + 1, _ | .bool true, _, fuel + 1, _ | .bool false, _, fuel + 1, _ => by
      simp [Value.write, readNode, skipSpace, isSpace, after?, ofValue]
  | .int value, _, fuel + 1, _ => readNode_int value ends fuel
  | .string text, _, fuel + 1, _ => readNode_string text rest fuel
  | .array [], _, fuel + 1, _ => by
      simp [Value.write, Value.writeItems, readNode, skipSpace, isSpace, ofValue, ofItems]
  | .array (item :: items), exact, fuel + 1, enough => by
      obtain ⟨own, beyond⟩ := Bool.and_eq_true_iff.mp exact
      simp only [Value.write, List.length_cons] at enough
      have read := readItems_write rest item items own beyond fuel (by omega)
      obtain ⟨c, others, written, solid, inside⟩ := writeItems_cons item items own
      rw [written] at read
      rw [ofValue, Value.write, written]
      exact readNode_array solid inside read
  | .object [], _, fuel + 1, _ => by
      simp [Value.write, Value.writeFields, readNode, skipSpace, isSpace, ofValue, ofFields]
  | .object (field :: fields), exact, fuel + 1, enough => by
      obtain ⟨_, inside⟩ := Bool.and_eq_true_iff.mp exact
      simp only [Value.write, List.length_cons] at enough
      have read := readFields_write rest field fields inside fuel (by omega)
      obtain ⟨others, written⟩ := writeFields_cons field fields
      rw [written] at read
      rw [ofValue, Value.write, written]
      exact readNode_object read

theorem readItems_write (rest : List Piece) : (item : Value) → (items : List Value) →
    item.isExact = true → Value.itemsExact items = true →
    (fuel : Nat) → 2 * (Value.writeItems (item :: items)).length ≤ fuel →
    readItems fuel ((Value.writeItems (item :: items)).map Piece.char ++ rest) =
      some (ofItems (item :: items), rest)
  | item, items, exact, _, 0, enough => by
      obtain ⟨c, tail, written, _⟩ := writeItems_cons item items exact
      simp [written] at enough
  | last, [], exact, _, fuel + 1, enough => by
      simp only [Value.writeItems, List.length_append, List.length_singleton] at enough
      have read := readNode_write (.bracket rest) last exact fuel (by omega)
      rw [Value.writeItems, List.map_append, List.append_assoc]
      exact readItems_last read
  | item, next :: later, exact, others, fuel + 1, enough => by
      obtain ⟨following, beyond⟩ := Bool.and_eq_true_iff.mp others
      simp only [Value.writeItems, List.length_append, List.length_cons] at enough
      have more := readItems_write rest next later following beyond fuel (by omega)
      have read := readNode_write
        (.comma ((Value.writeItems (next :: later)).map Piece.char ++ rest)) item exact fuel (by omega)
      have whole : (Value.writeItems (item :: next :: later)).map Piece.char ++ rest =
          item.write.map Piece.char ++
            .char ',' :: ((Value.writeItems (next :: later)).map Piece.char ++ rest) := by
        simp [Value.writeItems]
      rw [whole]
      exact readItems_more read more

theorem readFields_write (rest : List Piece) : (field : String × Value) →
    (fields : List (String × Value)) → Value.fieldsExact (field :: fields) = true →
    (fuel : Nat) → 2 * (Value.writeFields (field :: fields)).length ≤ fuel →
    readFields fuel ((Value.writeFields (field :: fields)).map Piece.char ++ rest) =
      some (ofFields (field :: fields), rest)
  | field, fields, _, 0, enough => by
      obtain ⟨tail, written⟩ := writeFields_cons field fields
      simp [written] at enough
  | (key, last), [], exact, fuel + 1, enough => by
      obtain ⟨own, _⟩ := Bool.and_eq_true_iff.mp exact
      simp only [Value.writeFields, List.length_append, List.length_cons] at enough
      have read := readNode_write (.brace rest) last own fuel (by omega)
      have named := stringRest_escapes key.toList
        (.char ':' :: (last.write.map Piece.char ++ .char '}' :: rest))
      have whole : (Value.writeFields [(key, last)]).map Piece.char ++ rest =
          .char '"' :: ((key.toList.flatMap Value.escape ++ ['"']).map Piece.char ++
            .char ':' :: (last.write.map Piece.char ++ .char '}' :: rest)) := by
        simp [Value.writeFields, Value.quote]
      rw [whole]
      exact readFields_last named read
  | (key, value), next :: later, exact, fuel + 1, enough => by
      obtain ⟨own, others⟩ := Bool.and_eq_true_iff.mp exact
      simp only [Value.writeFields, List.length_append, List.length_cons] at enough
      have more := readFields_write rest next later others fuel (by omega)
      have read := readNode_write
        (.comma ((Value.writeFields (next :: later)).map Piece.char ++ rest)) value own fuel
        (by omega)
      have named := stringRest_escapes key.toList (.char ':' :: (value.write.map Piece.char ++
        .char ',' :: ((Value.writeFields (next :: later)).map Piece.char ++ rest)))
      have whole : (Value.writeFields ((key, value) :: next :: later)).map Piece.char ++ rest =
          .char '"' :: ((key.toList.flatMap Value.escape ++ ['"']).map Piece.char ++
            .char ':' :: (value.write.map Piece.char ++
              .char ',' :: ((Value.writeFields (next :: later)).map Piece.char ++ rest))) := by
        simp [Value.writeFields, Value.quote]
      rw [whole]
      exact readFields_more named read more

end

end Node

end LeaseQueue.Json
