import LeaseQueue.Proofs.Documents

/-!
Evaluating the syntax of a value gives the value, with the fields of its objects in the order of their
names.
-/

namespace LeaseQueue.Json

namespace Value

def Precedes (first second : String × Value) : Prop := first.1 < second.1

theorem insertField_perm {key : String} {fields : List (String × Value)}
    (new : key ∉ fields.map Prod.fst) (value : Value) :
    (insertField key value fields).Perm ((key, value) :: fields) := by
  induction fields with
  | nil => exact .refl _
  | cons field rest ih =>
      obtain ⟨other, kept⟩ := field
      simp only [List.map_cons, List.mem_cons, not_or] at new
      rw [insertField, if_neg new.1]
      split
      · exact .refl _
      · exact ((ih new.2).cons _).trans (.swap _ _ _)

theorem insertField_ascending {key : String} {fields : List (String × Value)}
    (new : key ∉ fields.map Prod.fst) (ascending : fields.Pairwise Precedes) (value : Value) :
    (insertField key value fields).Pairwise Precedes := by
  induction fields with
  | nil => exact List.pairwise_singleton _ _
  | cons field rest ih =>
      obtain ⟨other, kept⟩ := field
      simp only [List.map_cons, List.mem_cons, not_or] at new
      obtain ⟨first, others⟩ := List.pairwise_cons.mp ascending
      rw [insertField, if_neg new.1]
      split
      · rename_i before
        refine List.pairwise_cons.mpr ⟨?_, ascending⟩
        intro later member
        rcases List.mem_cons.mp member with rfl | behind
        · exact before
        · exact String.lt_trans before (first later behind)
      · rename_i late
        refine List.pairwise_cons.mpr ⟨?_, ih new.2 others⟩
        intro later member
        rcases List.mem_cons.mp ((insertField_perm new.2 value).mem_iff.mp member) with rfl | behind
        · exact Std.lt_of_le_of_ne (String.not_lt.mp late) (Ne.symm new.1)
        · exact first later behind

theorem foldl_insertField {fields sorted : List (String × Value)} (ascending : sorted.Pairwise Precedes)
    (distinct : ((sorted ++ fields).map Prod.fst).Nodup) :
    let whole := fields.foldl (fun sorted (key, value) => insertField key value sorted) sorted
    whole.Perm (sorted ++ fields) ∧ whole.Pairwise Precedes := by
  induction fields generalizing sorted with
  | nil => exact ⟨by simp, ascending⟩
  | cons field rest ih =>
      obtain ⟨key, value⟩ := field
      have moved : (sorted ++ (key, value) :: rest).Perm ((key, value) :: (sorted ++ rest)) :=
        List.perm_middle
      have apart := (moved.map Prod.fst).nodup distinct
      -- No field is put in the place of one that is there already.
      have new : key ∉ sorted.map Prod.fst := fun listed =>
        (List.nodup_cons.mp apart).1 (by simpa using Or.inl listed)
      have joined := (insertField_perm new value).append_right rest
      obtain ⟨same, whole⟩ := ih (insertField_ascending new ascending value)
        ((joined.map Prod.fst).nodup_iff.mpr apart)
      exact ⟨same.trans (joined.trans moved.symm), whole⟩

def nameOrder (first second : String × Value) : Bool := first.1 ≤ second.1

theorem sortFields_eq_mergeSort {fields : List (String × Value)}
    (distinct : (fields.map Prod.fst).Nodup) : sortFields fields = fields.mergeSort nameOrder := by
  have merged := List.mergeSort_perm fields nameOrder
  have weakly : (fields.mergeSort nameOrder).Pairwise (nameOrder · ·) := by
    apply List.pairwise_mergeSort
    · intro first second third one two
      exact decide_eq_true (String.le_trans (of_decide_eq_true one) (of_decide_eq_true two))
    · intro first second
      simpa [nameOrder] using String.le_total first.1 second.1
  have apart : (fields.mergeSort nameOrder).Pairwise fun first second => first.1 ≠ second.1 :=
    List.pairwise_map.mp ((merged.map Prod.fst).nodup_iff.mpr distinct)
  have strictly : (fields.mergeSort nameOrder).Pairwise Precedes :=
    (weakly.and apart).imp fun both => Std.lt_of_le_of_ne (of_decide_eq_true both.1) both.2
  obtain ⟨same, ascending⟩ := foldl_insertField .nil (by simpa using distinct)
  -- Of two lists with the same fields only one can ascend.
  exact List.Perm.eq_of_pairwise (fun first second _ _ one two => absurd two (String.lt_asymm one))
    ascending strictly (same.trans merged.symm)

mutual

/-- A value with the fields of each object in the order of their names. -/
def ordered : Value → Value
  | .array items => .array (orderedItems items)
  | .object fields => .object ((orderedFields fields).mergeSort nameOrder)
  | value => value

def orderedItems : List Value → List Value
  | [] => []
  | item :: rest => item.ordered :: orderedItems rest

def orderedFields : List (String × Value) → List (String × Value)
  | [] => []
  | (key, value) :: rest => (key, value.ordered) :: orderedFields rest

end

mutual

def isOrdered : Value → Bool
  | .array items => itemsOrdered items
  | .object fields => decide (fields.Pairwise fun first second => first.1 < second.1) && fieldsOrdered fields
  | _ => true

def itemsOrdered : List Value → Bool
  | [] => true
  | item :: rest => item.isOrdered && itemsOrdered rest

def fieldsOrdered : List (String × Value) → Bool
  | [] => true
  | (_, value) :: rest => value.isOrdered && fieldsOrdered rest

end

mutual

theorem ordered_of_isOrdered : (value : Value) → value.isOrdered = true → value.ordered = value
  | .null, _ | .bool _, _ | .int _, _ | .float _, _ | .string _, _ => rfl
  | .array items, inOrder => congrArg Value.array (orderedItems_of_itemsOrdered items inOrder)
  | .object fields, inOrder => by
      obtain ⟨ascending, inside⟩ := Bool.and_eq_true_iff.mp inOrder
      rw [ordered, orderedFields_of_fieldsOrdered fields inside]
      exact congrArg Value.object (List.mergeSort_of_pairwise
        ((of_decide_eq_true ascending).imp fun before => decide_eq_true (Std.le_of_lt before)))

theorem orderedItems_of_itemsOrdered : (items : List Value) → itemsOrdered items = true →
    orderedItems items = items
  | [], _ => rfl
  | item :: rest, inOrder => by
      obtain ⟨own, others⟩ := Bool.and_eq_true_iff.mp inOrder
      rw [orderedItems, ordered_of_isOrdered item own, orderedItems_of_itemsOrdered rest others]

theorem orderedFields_of_fieldsOrdered : (fields : List (String × Value)) →
    fieldsOrdered fields = true → orderedFields fields = fields
  | [], _ => rfl
  | (key, value) :: rest, inOrder => by
      obtain ⟨own, others⟩ := Bool.and_eq_true_iff.mp inOrder
      rw [orderedFields, ordered_of_isOrdered value own, orderedFields_of_fieldsOrdered rest others]

end

theorem orderedFields_names (fields : List (String × Value)) :
    (orderedFields fields).map Prod.fst = fields.map Prod.fst := by
  induction fields with
  | nil => rfl
  | cons field rest ih => rw [orderedFields, List.map_cons, List.map_cons, ih]

mutual

def depth : Value → Nat
  | .array items => itemsDepth items + 1
  | .object fields => fieldsDepth fields + 1
  | _ => 0

def itemsDepth : List Value → Nat
  | [] => 0
  | item :: rest => max item.depth (itemsDepth rest)

def fieldsDepth : List (String × Value) → Nat
  | [] => 0
  | (_, value) :: rest => max value.depth (fieldsDepth rest)

end

mutual

theorem ofNode?_ofValue : (value : Value) → value.isExact = true → (room : Nat) → value.depth ≤ room →
    ofNode? room (.ofValue value) = some value.ordered
  | .null, _, _, _ | .bool _, _, _, _ => rfl
  | .int value, exact, _, _ => by
      obtain ⟨least, most⟩ := of_decide_eq_true exact
      rw [Node.ofValue, ofNode?, Numeral.value?_ofInt least most]
      rfl
  | .string text, _, _, _ => by
      rw [Node.ofValue, ofNode?, StringUnit.text?_written]
      rfl
  | .array items, exact, room + 1, fits => by
      rw [Node.ofValue, ofNode?, ofItems?_ofItems items exact room (Nat.le_of_succ_le_succ fits)]
      rfl
  | .object fields, exact, room + 1, fits => by
      obtain ⟨distinct, inside⟩ := Bool.and_eq_true_iff.mp exact
      rw [Node.ofValue, ofNode?, ofFields?_ofFields fields inside room (Nat.le_of_succ_le_succ fits),
        Option.map_some, sortFields_eq_mergeSort (by simpa [orderedFields_names] using distinct)]
      rfl

theorem ofItems?_ofItems : (items : List Value) → itemsExact items = true → (room : Nat) →
    itemsDepth items ≤ room → ofItems? room (Node.ofItems items) = some (orderedItems items)
  | [], _, _, _ => rfl
  | item :: rest, exact, room, fits => by
      obtain ⟨own, others⟩ := Bool.and_eq_true_iff.mp exact
      obtain ⟨shallow, below⟩ := Nat.max_le.mp fits
      rw [Node.ofItems, ofItems?, ofNode?_ofValue item own room shallow,
        ofItems?_ofItems rest others room below]
      rfl

theorem ofFields?_ofFields : (fields : List (String × Value)) → fieldsExact fields = true →
    (room : Nat) → fieldsDepth fields ≤ room →
    ofFields? room (Node.ofFields fields) = some (orderedFields fields)
  | [], _, _, _ => rfl
  | (key, value) :: rest, exact, room, fits => by
      obtain ⟨own, others⟩ := Bool.and_eq_true_iff.mp exact
      obtain ⟨shallow, below⟩ := Nat.max_le.mp fits
      rw [Node.ofFields, ofFields?, StringUnit.text?_written, ofNode?_ofValue value own room shallow,
        ofFields?_ofFields rest others room below]
      rfl

end

end Value

end LeaseQueue.Json
