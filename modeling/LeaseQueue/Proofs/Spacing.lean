import LeaseQueue.Text.Blank
import Mathlib.Data.List.Chain
import Mathlib.Data.List.TakeWhile

/-!
Texts cut into words and joined again. What comes back has one space between each two words, so it is
the text itself exactly where that is how the text was spaced.
-/

namespace LeaseQueue

namespace Text

/-- Every blank is a space, and no two of them stand together. -/
structure SinglySpaced (text : List Char) : Prop where
  spaces : ∀ c ∈ text, isBlank c = true → c = ' '
  apart : text.IsChain fun first second => isBlank first = false ∨ isBlank second = false

@[mk_iff]
structure Trimmed (text : List Char) : Prop where
  first : ∀ c ∈ text.head?, isBlank c = false
  last : ∀ c ∈ text.getLast?, isBlank c = false

def IsWord (word : List Char) : Prop := word ≠ [] ∧ ∀ c ∈ word, isBlank c = false

instance (text : List Char) : Decidable (Trimmed text) :=
  decidable_of_iff (text.head?.all (!isBlank ·) = true ∧ text.getLast?.all (!isBlank ·) = true) <| by
    simp [Option.all_eq_true, trimmed_iff]

instance (word : List Char) : Decidable (IsWord word) :=
  decidable_of_iff (word.isEmpty = false ∧ word.all (!isBlank ·) = true) <| by
    simp [IsWord]

/-- A text with the words in it, each as long as it can be, and blanks around them. -/
inductive Consists : (text : List Char) → (parts : List (List Char)) → Prop
  | nil : Consists [] []
  | blank {c : Char} {rest : List Char} {parts : List (List Char)} (blank : isBlank c = true)
      (others : Consists rest parts) : Consists (c :: rest) parts
  | word {word rest : List Char} {parts : List (List Char)} (isWord : IsWord word)
      (ends : ∀ c ∈ rest.head?, isBlank c = true) (others : Consists rest parts) :
      Consists (word ++ rest) (word :: parts)

-- The generated equations of `words` are slow to find.
theorem words_cons (c : Char) (rest : List Char) : words (c :: rest) =
    if isBlank c then words rest
    else
      match rest, words rest with
      | next :: _, word :: later => if isBlank next then [c] :: word :: later else (c :: word) :: later
      | _, later => [c] :: later := rfl

theorem words_blank {c : Char} (blank : isBlank c = true) (rest : List Char) :
    words (c :: rest) = words rest := by
  rw [words_cons, if_pos blank]

theorem words_append {word rest : List Char} (isWord : IsWord word)
    (ends : ∀ c ∈ rest.head?, isBlank c = true) : words (word ++ rest) = word :: words rest := by
  obtain ⟨some, plain⟩ := isWord
  induction word with
  | nil => exact absurd rfl some
  | cons c word ih =>
      have first := plain c List.mem_cons_self
      rw [List.cons_append, words_cons, first]
      cases word with
      | nil =>
          cases rest with
          | nil => rfl
          | cons next more =>
              have blank := ends next rfl
              cases found : words (next :: more) with
              | nil => simp [found]
              | cons => simp [found, blank]
      | cons next word =>
          have goesOn := plain next (List.mem_cons_of_mem _ List.mem_cons_self)
          rw [ih (List.cons_ne_nil _ _) fun d member => plain d (List.mem_cons_of_mem _ member)]
          simp [goesOn]

theorem exists_consists (text : List Char) : ∃ parts, Consists text parts := by
  generalize size : text.length = length
  induction length using Nat.strongRecOn generalizing text with
  | ind length ih =>
      cases text with
      | nil => exact ⟨[], .nil⟩
      | cons c rest =>
          by_cases blank : isBlank c = true
          · obtain ⟨parts, others⟩ := ih rest.length (by simp [← size]) rest rfl
            exact ⟨parts, .blank blank others⟩
          · have plain : isBlank c = false := Bool.not_eq_true _ ▸ blank
            let word := c :: rest.takeWhile fun d => !isBlank d
            let left := rest.dropWhile fun d => !isBlank d
            have whole : c :: rest = word ++ left :=
              congrArg (c :: ·) List.takeWhile_append_dropWhile.symm
            have isWord : IsWord word := by
              refine ⟨List.cons_ne_nil _ _, fun d member => ?_⟩
              rcases List.mem_cons.mp member with rfl | later
              · exact plain
              · simpa using List.mem_takeWhile_imp later
            have ends : ∀ d ∈ left.head?, isBlank d = true := by
              intro d member
              have stops := List.head?_dropWhile_not (fun d => !isBlank d) rest
              rw [Option.mem_def.mp member] at stops
              simpa using stops
            have shorter : left.length < length := by
              have sizes := congrArg List.length whole
              simp only [List.length_append, size, word, List.length_cons] at sizes
              omega
            obtain ⟨parts, others⟩ := ih left.length shorter left rfl
            exact ⟨word :: parts, whole ▸ .word isWord ends others⟩

theorem Consists.words_eq {text : List Char} {parts : List (List Char)} (consists : Consists text parts) :
    words text = parts := by
  induction consists with
  | nil => rfl
  | blank blank _ ih => rw [words_blank blank, ih]
  | word isWord ends _ ih => rw [words_append isWord ends, ih]

theorem consists_words (text : List Char) : Consists text (words text) := by
  obtain ⟨parts, consists⟩ := exists_consists text
  exact consists.words_eq ▸ consists

theorem Consists.isWord {text word : List Char} {parts : List (List Char)} (consists : Consists text parts)
    (member : word ∈ parts) : IsWord word := by
  induction consists with
  | nil => simp at member
  | blank _ _ ih => exact ih member
  | word isWord _ _ ih =>
      rcases List.mem_cons.mp member with rfl | later
      · exact isWord
      · exact ih later

theorem isBlank_space : isBlank ' ' = true := by decide

theorem joinWords_cons (word other : List Char) (later : List (List Char)) :
    joinWords (word :: other :: later) = word ++ ' ' :: joinWords (other :: later) := by
  rw [joinWords, List.intercalate_cons_cons, List.append_assoc]
  rfl

theorem joinWords_singleton (word : List Char) : joinWords [word] = word :=
  List.intercalate_singleton

theorem consists_joinWords {parts : List (List Char)} (areWords : ∀ word ∈ parts, IsWord word) :
    Consists (joinWords parts) parts := by
  induction parts with
  | nil => exact .nil
  | cons word parts ih =>
      have first := areWords word List.mem_cons_self
      have later := ih fun other member => areWords other (List.mem_cons_of_mem _ member)
      cases parts with
      | nil =>
          have none : ∀ c ∈ ([] : List Char).head?, isBlank c = true := by simp
          have alone := Consists.word first none .nil
          rw [joinWords_singleton]
          rwa [List.append_nil] at alone
      | cons other parts =>
          rw [joinWords_cons]
          exact .word first (by simp [isBlank_space]) (.blank isBlank_space later)

theorem singlySpaced_of_isWord {word : List Char} (isWord : IsWord word) : SinglySpaced word := by
  obtain ⟨-, plain⟩ := isWord
  refine ⟨fun c member blank => ?_, ?_⟩
  · simp [plain c member] at blank
  · exact (List.pairwise_of_forall_mem_list fun first member _ _ => .inl (plain first member)).isChain

theorem head?_joinWords {word : List Char} (isWord : IsWord word) (later : List (List Char)) :
    (joinWords (word :: later)).head? = word.head? := by
  obtain ⟨some, -⟩ := isWord
  cases later with
  | nil => rw [joinWords_singleton]
  | cons => rw [joinWords_cons, List.head?_append_of_ne_nil _ some]

theorem singlySpaced_joinWords {parts : List (List Char)} (areWords : ∀ word ∈ parts, IsWord word) :
    SinglySpaced (joinWords parts) := by
  induction parts with
  | nil => exact ⟨by simp [joinWords], by simp [joinWords]⟩
  | cons word parts ih =>
      have first := areWords word List.mem_cons_self
      have later := ih fun other member => areWords other (List.mem_cons_of_mem _ member)
      have single := singlySpaced_of_isWord first
      cases parts with
      | nil => rwa [joinWords_singleton]
      | cons other parts =>
          have second := areWords other (List.mem_cons_of_mem _ List.mem_cons_self)
          rw [joinWords_cons]
          refine ⟨?_, List.isChain_append.mpr ⟨single.apart, List.isChain_cons.mpr ⟨?_, later.apart⟩, ?_⟩⟩
          · intro c member blank
            rcases List.mem_append.mp member with old | new
            · exact single.spaces c old blank
            · rcases List.mem_cons.mp new with rfl | tail
              · rfl
              · exact later.spaces c tail blank
          · intro c member
            rw [head?_joinWords second] at member
            exact .inr (second.2 c (List.mem_of_mem_head? member))
          · intro c member _ _
            exact .inl (first.2 c (List.mem_of_mem_getLast? member))

theorem trimmed_joinWords {parts : List (List Char)} (areWords : ∀ word ∈ parts, IsWord word) :
    Trimmed (joinWords parts) := by
  induction parts with
  | nil => exact ⟨by simp [joinWords], by simp [joinWords]⟩
  | cons word parts ih =>
      have first := areWords word List.mem_cons_self
      have later := ih fun other member => areWords other (List.mem_cons_of_mem _ member)
      refine ⟨fun c member => ?_, fun c member => ?_⟩
      · rw [head?_joinWords first] at member
        exact first.2 c (List.mem_of_mem_head? member)
      · cases parts with
        | nil =>
            rw [joinWords_singleton] at member
            exact first.2 c (List.mem_of_mem_getLast? member)
        | cons other parts =>
            have second := areWords other (List.mem_cons_of_mem _ List.mem_cons_self)
            have filled : joinWords (other :: parts) ≠ [] := fun empty => by
              have head := head?_joinWords second parts
              rw [empty, List.head?_nil] at head
              exact second.1 (List.head?_eq_none_iff.mp head.symm)
            apply later.last c
            rw [joinWords_cons, List.getLast?_append_of_ne_nil _ (List.cons_ne_nil _ _),
              List.getLast?_cons, List.getLast?_eq_getLast_of_ne_nil filled] at member
            rw [List.getLast?_eq_getLast_of_ne_nil filled]
            exact member

theorem SinglySpaced.right_of_append (front : List Char) {text : List Char}
    (single : SinglySpaced (front ++ text)) : SinglySpaced text :=
  ⟨fun c member => single.spaces c (List.mem_append_right _ member), single.apart.right_of_append⟩

theorem last_of_append (front : List Char) {text : List Char}
    (ends : ∀ c ∈ (front ++ text).getLast?, isBlank c = false) :
    ∀ c ∈ text.getLast?, isBlank c = false := by
  intro c member
  apply ends c
  rw [List.getLast?_append, Option.mem_def.mp member]
  rfl

theorem Consists.joinWords_eq {text : List Char} {parts : List (List Char)} (consists : Consists text parts)
    (single : SinglySpaced text) (ends : ∀ c ∈ text.getLast?, isBlank c = false) :
    joinWords parts = text.dropWhile isBlank := by
  induction consists with
  | nil => rfl
  | @blank c rest parts blank _ ih =>
      rw [List.dropWhile_cons_of_pos blank]
      exact ih (single.right_of_append [c]) (last_of_append [c] ends)
  | @word word rest parts isWord stops others ih =>
      have kept : (word ++ rest).dropWhile isBlank = word ++ rest := by
        obtain ⟨first, more, rfl⟩ := List.exists_cons_of_ne_nil isWord.1
        exact List.dropWhile_cons_of_neg (by simp [isWord.2 first List.mem_cons_self])
      have following := ih (single.right_of_append word) (last_of_append word ends)
      rw [kept]
      cases rest with
      | nil =>
          obtain rfl : [] = parts := others.words_eq
          rw [joinWords_singleton, List.append_nil]
      | cons blank more =>
          have isBlank := stops blank rfl
          have space := single.spaces blank (List.mem_append_right _ List.mem_cons_self) isBlank
          have apart := (List.isChain_cons.mp (single.right_of_append word).apart).1
          cases more with
          | nil => simp [ends blank (by simp)] at isBlank
          | cons next more =>
              have plain := (apart next rfl).resolve_left (by simp [isBlank])
              rw [List.dropWhile_cons_of_pos isBlank, List.dropWhile_cons_of_neg (by simp [plain])] at following
              cases parts with
              | nil => simp [joinWords] at following
              | cons other later => rw [joinWords_cons, following, space]

/-- What becomes of a text when only its words are kept, with one space between each two. -/
structure Respaced (typed kept : List Char) : Prop where
  sameWords : words kept = words typed
  single : SinglySpaced kept
  trimmed : Trimmed kept

theorem joinWords_eq_of_single {text : List Char} (single : SinglySpaced text) (trimmed : Trimmed text) :
    joinWords (words text) = text := by
  rw [(consists_words text).joinWords_eq single trimmed.last]
  cases text with
  | nil => rfl
  | cons first rest => exact List.dropWhile_cons_of_neg (by simp [trimmed.first first rfl])

theorem respaced_iff {typed kept : List Char} : Respaced typed kept ↔ kept = joinWords (words typed) := by
  have areWords : ∀ word ∈ words typed, IsWord word := fun _ => (consists_words typed).isWord
  constructor
  · intro respaced
    rw [← respaced.sameWords, joinWords_eq_of_single respaced.single respaced.trimmed]
  · rintro rfl
    exact ⟨(consists_joinWords areWords).words_eq, singlySpaced_joinWords areWords,
      trimmed_joinWords areWords⟩

theorem Respaced.eq_iff {typed kept : List Char} (respaced : Respaced typed kept) (trimmed : Trimmed typed) :
    kept = typed ↔ SinglySpaced typed := by
  constructor
  · rintro rfl
    exact respaced.single
  · intro single
    rw [respaced_iff.mp respaced, joinWords_eq_of_single single trimmed]

end Text

end LeaseQueue
