import DataSchema.Proofs.Text.Character
import DataSchema.Text.Words

/-!
# How a text is split into words

`FirstWord word rest` says which word stands at the head of the text `word ++ rest`, with one
constructor for each kind of word and the conditions on what may follow it. A text is empty, or
begins with a character that belongs to no word, or begins with such a word (`words_induction`), and
the words of a text are read off step by step (`words_cons_of_not_alphanum`, `FirstWord.words`).

From this it follows of which form words are (`isWord_of_mem_words`) and that words lose only what
is no ASCII letter or digit (`flatten_words`).
-/

namespace DataSchema.Text

variable {word rest text : List Char} {c : Char}

/-! ## Rows of characters -/

theorem runLength_append {test : Char → Bool} {row : List Char} (hrow : ∀ c ∈ row, test c = true)
    (hrest : Stops test rest) : runLength test (row ++ rest) = row.length := by
  have hnil : rest.takeWhile test = [] := by
    cases rest with
    | nil => rfl
    | cons c rest => simpa using hrest
  rw [runLength, List.takeWhile_append_of_pos hrow, hnil, List.append_nil]

theorem runLength_of_stops {test : Char → Bool} (h : Stops test text) : runLength test text = 0 :=
  runLength_append (fun _ hc => absurd hc List.not_mem_nil) h

/-! ## The first word -/

/-- What may stand behind a row of capitals that is one word: the end of the identifier, or a
capitalised word. -/
inductive EndsAcronym : List Char → Prop
  | nil : EndsAcronym []
  | separator {c : Char} {rest : List Char} (h : isIdentifierChar c = false) :
      EndsAcronym (c :: rest)
  | capitalised {c d : Char} {rest : List Char} (upper : c.isUpper = true)
      (lower : d.isLower = true) : EndsAcronym (c :: d :: rest)

/-- The word at the head of a text, and what follows it. -/
inductive FirstWord : (word rest : List Char) → Prop
  /-- Two capitals or more. -/
  | acronym {word rest : List Char} (two : 2 ≤ word.length) (upper : ∀ c ∈ word, c.isUpper = true)
      (ends : EndsAcronym rest) : FirstWord word rest
  /-- Small letters, a capital before them if there is one, and digits behind them if there are
  any. -/
  | small {head letters digits rest : List Char} (head_le : head.length ≤ 1)
      (upper : ∀ c ∈ head, c.isUpper = true) (ne : letters ≠ [])
      (lower : ∀ c ∈ letters, c.isLower = true) (digit : ∀ c ∈ digits, c.isDigit = true)
      (lower_ends : digits = [] → Stops Char.isLower rest) (digit_ends : Stops Char.isDigit rest) :
      FirstWord (head ++ (letters ++ digits)) rest
  /-- A capital that begins neither an acronym nor a capitalised word. -/
  | capital {c : Char} {rest : List Char} (upper : c.isUpper = true)
      (ends : Stops Char.isLower rest) (alone : acronymLength? (c :: rest) = none) :
      FirstWord [c] rest
  | number {digits rest : List Char} (ne : digits ≠ []) (digit : ∀ c ∈ digits, c.isDigit = true)
      (ends : Stops Char.isDigit rest) : FirstWord digits rest

/-- A small word with no capital before it. -/
theorem FirstWord.uncapitalised {letters digits : List Char} (ne : letters ≠ [])
    (lower : ∀ c ∈ letters, c.isLower = true) (digit : ∀ c ∈ digits, c.isDigit = true)
    (lower_ends : digits = [] → Stops Char.isLower rest) (digit_ends : Stops Char.isDigit rest) :
    FirstWord (letters ++ digits) rest :=
  @FirstWord.small [] letters digits rest (Nat.zero_le 1) nofun ne lower digit lower_ends digit_ends

/-- Whether the longest row of capitals at the head of a text is a word depends on its length and on
the character behind it. -/
theorem acronymLength?_cons {row : List Char} (hrow : ∀ x ∈ row, x.isUpper = true)
    (hc : c.isUpper = false) :
    acronymLength? (row ++ c :: rest) =
      if row.length < 2 then none
      else if !isIdentifierChar c then some row.length
      else if c.isLower && 2 < row.length then some (row.length - 1)
      else none := by
  unfold acronymLength?
  dsimp only
  rw [runLength_append hrow ((stops_cons _ c rest).2 hc), List.drop_left]
  rfl

/-- A row of capitals is a word of its own if it is long enough and what follows it ends it. -/
theorem EndsAcronym.acronymLength? (hends : EndsAcronym rest) (two : 2 ≤ word.length)
    (upper : ∀ c ∈ word, c.isUpper = true) :
    acronymLength? (word ++ rest) = some word.length := by
  cases hends with
  | nil =>
    unfold Text.acronymLength?
    dsimp only
    rw [runLength_append upper (stops_nil _), List.drop_left, if_neg (by omega)]
    rfl
  | @separator c rest h =>
    have hupper : c.isUpper = false := by
      by_contra hupper
      have hword := isAlphanum_of_isAlpha (isAlpha_of_isUpper (by simpa using hupper))
      rw [isIdentifierChar, hword, Bool.true_or] at h
      cases h
    rw [acronymLength?_cons upper hupper, if_neg (by omega)]
    simp [h]
  | @capitalised c d rest hc hd =>
    -- The capital of the next word belongs to the row, and is left out again.
    have hrow : ∀ x ∈ word ++ [c], x.isUpper = true := by
      intro x hx
      rcases List.mem_append.1 hx with hx | hx
      · exact upper x hx
      · rwa [List.mem_singleton.1 hx]
    have hword : isIdentifierChar d = true := by
      rw [isIdentifierChar, isAlphanum_of_isAlpha (isAlpha_of_isLower hd), Bool.true_or]
    have hlength : (word ++ [c]).length = word.length + 1 := List.length_append
    rw [List.append_cons, acronymLength?_cons hrow (not_isUpper_of_isLower hd), hlength,
      if_neg (by omega)]
    have hlong : 2 < word.length + 1 := by omega
    simp [hword, hd, hlong]

/-- A row of capitals that the identifier goes on behind begins with no acronym, unless it goes on
with a small letter and the row has three capitals or more. -/
theorem acronymLength?_eq_none {row : List Char} (hrow : ∀ x ∈ row, x.isUpper = true)
    (hc : isIdentifierChar c = true) (hupper : c.isUpper = false)
    (hlower : c.isLower = true → row.length ≤ 2) : acronymLength? (row ++ c :: rest) = none := by
  rw [acronymLength?_cons hrow hupper]
  split
  · rfl
  · have hshort : ¬ (c.isLower = true ∧ 2 < row.length) := fun h =>
      absurd (hlower h.1) (by omega)
    simpa [hc] using hshort

theorem acronymLength?_of_lt {row : List Char} (hrow : ∀ x ∈ row, x.isUpper = true)
    (hrest : Stops Char.isUpper rest) (hlength : row.length < 2) :
    acronymLength? (row ++ rest) = none := by
  unfold acronymLength?
  dsimp only
  rw [runLength_append hrow hrest, if_pos hlength]

/-- Nothing that begins with no capital begins with an acronym. -/
theorem acronymLength?_of_stops (h : Stops Char.isUpper text) : acronymLength? text = none :=
  acronymLength?_of_lt (fun _ hc => absurd hc List.not_mem_nil) h Nat.zero_lt_two

theorem FirstWord.ne_nil (h : FirstWord word rest) : word ≠ [] := by
  cases h with
  | acronym two => rintro rfl; simp at two
  | small _ _ ne => simp [ne]
  | capital => exact List.cons_ne_nil _ _
  | number ne => exact ne

/-- A text that begins with no letter begins with the word of its digits. -/
theorem wordLength_of_stops (hupper : Stops Char.isUpper text) (hlower : Stops Char.isLower text) :
    wordLength text = runLength Char.isDigit text := by
  unfold wordLength
  rw [acronymLength?_of_stops hupper]
  dsimp only
  rw [runLength_of_stops hupper, Nat.min_zero, List.drop_zero, runLength_of_stops hlower]
  rfl

/-- The first word is as long as it is said to be. -/
theorem FirstWord.wordLength (h : FirstWord word rest) :
    wordLength (word ++ rest) = word.length := by
  cases h with
  | acronym two upper ends =>
    unfold Text.wordLength
    rw [ends.acronymLength? two upper]
  | @small head letters digits rest head_le upper ne lower digit lower_ends digit_ends =>
    have hletters : Stops Char.isUpper (letters ++ (digits ++ rest)) :=
      .of_forall ne fun c hc => not_isUpper_of_isLower (lower c hc)
    have hdigits : Stops Char.isLower (digits ++ rest) := by
      by_cases hnil : digits = []
      · rw [hnil, List.nil_append]
        exact lower_ends hnil
      · exact .of_forall hnil fun c hc => not_isLower_of_isDigit (digit c hc)
    have hpositive : 0 < letters.length := List.length_pos_iff.2 ne
    have hlength : (head ++ letters).length = head.length + letters.length :=
      List.length_append
    have htext : head ++ (letters ++ digits) ++ rest = head ++ (letters ++ (digits ++ rest)) := by
      simp only [List.append_assoc]
    unfold Text.wordLength
    rw [htext, acronymLength?_of_lt upper hletters (by omega)]
    dsimp only
    rw [runLength_append upper hletters, Nat.min_eq_right head_le, List.drop_left,
      runLength_append lower hdigits, if_pos hpositive, ← hlength, ← List.append_assoc,
      List.drop_left, runLength_append digit digit_ends]
    simp only [List.length_append]
    omega
  | @capital c rest upper ends alone =>
    have hrun : min 1 (runLength Char.isUpper (c :: rest)) = 1 := by
      rw [runLength, List.takeWhile_cons_of_pos upper, List.length_cons]
      omega
    have hlower : runLength Char.isLower ((c :: rest).drop 1) = 0 :=
      runLength_of_stops ends
    unfold Text.wordLength
    rw [List.singleton_append, alone]
    dsimp only
    rw [hrun, hlower]
    rfl
  | number ne digit ends =>
    have hupper : Stops Char.isUpper (word ++ rest) :=
      .of_forall ne fun c hc => not_isUpper_of_isDigit (digit c hc)
    have hlower : Stops Char.isLower (word ++ rest) :=
      .of_forall ne fun c hc => not_isLower_of_isDigit (digit c hc)
    rw [wordLength_of_stops hupper hlower, runLength_append digit ends]

/-- A character that is no ASCII letter or digit begins no word. -/
theorem wordLength_eq_zero (h : c.isAlphanum = false) : wordLength (c :: rest) = 0 := by
  obtain ⟨⟨hupper, hlower⟩, hdigit⟩ :
      (c.isUpper = false ∧ c.isLower = false) ∧ c.isDigit = false := by
    simpa [Char.isAlphanum, Char.isAlpha] using h
  rw [wordLength_of_stops ((stops_cons _ c rest).2 hupper) ((stops_cons _ c rest).2 hlower),
    runLength_of_stops ((stops_cons _ c rest).2 hdigit)]

/-- A text that begins with capitals begins with a word. -/
theorem exists_firstWord_of_capitals {row : List Char} (hrow : ∀ x ∈ row, x.isUpper = true)
    (hne : row ≠ []) (hrest : Stops Char.isUpper rest) :
    ∃ word tail, row ++ rest = word ++ tail ∧ FirstWord word tail := by
  obtain ⟨first, row, rfl⟩ := List.exists_cons_of_ne_nil hne
  have hfirst : first.isUpper = true := hrow first List.mem_cons_self
  cases row with
  | nil =>
    obtain ⟨letters, rest, rfl, hletters, hlower⟩ := exists_row Char.isLower rest
    by_cases hnil : letters = []
    · subst hnil
      exact ⟨[first], rest, rfl, .capital hfirst hlower
        (acronymLength?_of_lt hrow hrest Nat.one_lt_two)⟩
    · obtain ⟨digits, rest, rfl, hdigits, hdigit⟩ := exists_row Char.isDigit rest
      refine ⟨[first] ++ (letters ++ digits), rest, by simp,
        .small le_rfl hrow hnil hletters hdigits ?_ hdigit⟩
      rintro rfl
      exact hlower
  | cons second row =>
    have halone (h : acronymLength? (first :: second :: row ++ rest) = none) :
        FirstWord [first] (second :: row ++ rest) :=
      .capital hfirst ((stops_cons _ _ _).2 (not_isLower_of_isUpper (hrow second (by simp)))) h
    cases rest with
    | nil => exact ⟨_, [], rfl, .acronym (by simp) hrow .nil⟩
    | cons c rest =>
      rw [stops_cons] at hrest
      by_cases hc : isIdentifierChar c = true
      · by_cases hlong : c.isLower = true ∧ row ≠ []
        · -- The last capital begins the next word.
          obtain ⟨before, last, hlast⟩ := (List.eq_nil_or_concat row).resolve_left hlong.2
          subst hlast
          refine ⟨first :: second :: before, last :: c :: rest, by simp, .acronym (by simp) ?_
            (.capitalised (hrow last (by simp)) hlong.1)⟩
          exact fun x hx => hrow x (by simp at hx ⊢; tauto)
        · refine ⟨[first], _, rfl, halone (acronymLength?_eq_none hrow hc hrest fun hlower => ?_)⟩
          have hnil : row = [] := by
            by_contra hrow'
            exact hlong ⟨hlower, hrow'⟩
          rw [hnil]
          rfl
      · exact ⟨_, c :: rest, rfl, .acronym (by simp) hrow (.separator (by simpa using hc))⟩

/-- A text begins with a word unless it is empty or begins with a character of no word. -/
theorem exists_firstWord (rest : List Char) (h : c.isAlphanum = true) :
    ∃ word tail, c :: rest = word ++ tail ∧ FirstWord word tail := by
  obtain ⟨row, tail, htext, hrow, htail⟩ := exists_row Char.isUpper (c :: rest)
  by_cases hupper : row = []
  · subst hupper
    rw [htext, List.nil_append]
    obtain ⟨letters, tail, rfl, hletters, hlower⟩ := exists_row Char.isLower tail
    obtain ⟨digits, tail, rfl, hdigits, hdigit⟩ := exists_row Char.isDigit tail
    by_cases hnil : letters = []
    · subst hnil
      refine ⟨digits, tail, rfl, .number ?_ hdigits hdigit⟩
      rintro rfl
      subst htext
      simp only [List.nil_append, stops_cons] at htail hlower hdigit
      simp [Char.isAlphanum, Char.isAlpha, htail, hlower, hdigit] at h
    · refine ⟨letters ++ digits, tail, by simp,
        .uncapitalised hnil hletters hdigits ?_ hdigit⟩
      rintro rfl
      exact hlower
  · rw [htext]
    exact exists_firstWord_of_capitals hrow hupper htail

/-! ## All words -/

@[simp] theorem words_nil : words [] = [] := by rw [words]

theorem words_cons_of_not_alphanum (h : c.isAlphanum = false) : words (c :: rest) = words rest := by
  rw [words, wordLength_eq_zero h]

theorem words_append (hne : word ≠ []) (hlength : wordLength (word ++ rest) = word.length) :
    words (word ++ rest) = word :: words rest := by
  obtain ⟨c, word, rfl⟩ := List.exists_cons_of_ne_nil hne
  rw [List.cons_append] at hlength ⊢
  rw [words, hlength, List.length_cons]
  simp only [List.take_left, List.drop_left]

theorem FirstWord.words (h : FirstWord word rest) : words (word ++ rest) = word :: words rest :=
  words_append h.ne_nil h.wordLength

/-- Induction along the words of a text. -/
@[elab_as_elim]
theorem words_induction {motive : List Char → Prop} (nil : motive [])
    (skip : ∀ c rest, c.isAlphanum = false → motive rest → motive (c :: rest))
    (word : ∀ word rest, FirstWord word rest → motive rest → motive (word ++ rest))
    (text : List Char) : motive text := by
  induction hlength : text.length using Nat.strong_induction_on generalizing text with
  | _ n ih =>
    subst hlength
    cases text with
    | nil => exact nil
    | cons c rest =>
      by_cases hc : c.isAlphanum = true
      · obtain ⟨first, tail, htext, hfirst⟩ := exists_firstWord rest hc
        have hpositive : 0 < first.length := List.length_pos_iff.2 hfirst.ne_nil
        rw [htext, List.length_append] at ih
        rw [htext]
        exact word first tail hfirst (ih tail.length (by omega) tail rfl)
      · exact skip c rest (by simpa using hc) (ih rest.length (by simp) rest rfl)

/-- The form of a word: capitals, small letters behind at most one capital and before digits, or
digits. -/
inductive IsWord : List Char → Prop
  | capitals {word : List Char} (ne : word ≠ []) (upper : ∀ c ∈ word, c.isUpper = true) :
      IsWord word
  | small {head letters digits : List Char} (head_le : head.length ≤ 1)
      (upper : ∀ c ∈ head, c.isUpper = true) (ne : letters ≠ [])
      (lower : ∀ c ∈ letters, c.isLower = true) (digit : ∀ c ∈ digits, c.isDigit = true) :
      IsWord (head ++ (letters ++ digits))
  | number {digits : List Char} (ne : digits ≠ []) (digit : ∀ c ∈ digits, c.isDigit = true) :
      IsWord digits

theorem FirstWord.isWord (h : FirstWord word rest) : IsWord word := by
  cases h with
  | acronym two upper => exact .capitals (List.ne_nil_of_length_pos (by omega)) upper
  | small head_le upper ne lower digit => exact .small head_le upper ne lower digit
  | capital upper => exact .capitals (by simp) (by simpa using upper)
  | number ne digit => exact .number ne digit

theorem IsWord.ne_nil (h : IsWord word) : word ≠ [] := by
  cases h with
  | capitals ne => exact ne
  | small _ _ ne => simp [ne]
  | number ne => exact ne

/-- Digits stand at the end of a word. -/
theorem IsWord.exists_letters (h : IsWord word) :
    ∃ letters digits, word = letters ++ digits ∧ (∀ c ∈ letters, c.isAlpha = true) ∧
      ∀ c ∈ digits, c.isDigit = true := by
  cases h with
  | capitals _ upper =>
    exact ⟨word, [], (List.append_nil _).symm, fun c hc => isAlpha_of_isUpper (upper c hc), by simp⟩
  | @small head letters digits _ upper _ lower digit =>
    refine ⟨head ++ letters, digits, (List.append_assoc _ _ _).symm, fun c hc => ?_, digit⟩
    rcases List.mem_append.1 hc with hc | hc
    · exact isAlpha_of_isUpper (upper c hc)
    · exact isAlpha_of_isLower (lower c hc)
  | number _ digit => exact ⟨[], word, rfl, by simp, digit⟩

theorem IsWord.isAlphanum (h : IsWord word) : ∀ c ∈ word, c.isAlphanum = true := by
  obtain ⟨letters, digits, rfl, halpha, hdigit⟩ := h.exists_letters
  intro c hc
  rcases List.mem_append.1 hc with hc | hc
  · exact isAlphanum_of_isAlpha (halpha c hc)
  · exact isAlphanum_of_isDigit (hdigit c hc)

theorem isWord_of_mem_words (h : word ∈ words text) : IsWord word := by
  induction text using words_induction with
  | nil => simp at h
  | skip c rest hc ih =>
    rw [words_cons_of_not_alphanum hc] at h
    exact ih h
  | word first rest hfirst ih =>
    rw [hfirst.words] at h
    rcases List.mem_cons.1 h with rfl | h
    · exact hfirst.isWord
    · exact ih h

/-- Words keep all ASCII letters and digits of a text, in order. -/
theorem flatten_words (text : List Char) : (words text).flatten = text.filter Char.isAlphanum := by
  induction text using words_induction with
  | nil => rw [words_nil]; rfl
  | skip c rest hc ih =>
    rw [words_cons_of_not_alphanum hc, ih, List.filter_cons_of_neg (by simp [hc])]
  | word first rest hfirst ih =>
    rw [hfirst.words, List.flatten_cons, ih, List.filter_append,
      List.filter_eq_self.2 hfirst.isWord.isAlphanum]

/-! ## Words in small letters -/

/-- A row of small letters and then of digits, not both empty. -/
inductive IsSmallWord : List Char → Prop
  | mk {letters digits : List Char} (ne : letters ++ digits ≠ [])
      (lower : ∀ c ∈ letters, c.isLower = true) (digit : ∀ c ∈ digits, c.isDigit = true) :
      IsSmallWord (letters ++ digits)

theorem IsSmallWord.ne_nil (h : IsSmallWord word) : word ≠ [] := by
  obtain ⟨ne, -, -⟩ := h
  exact ne

theorem IsSmallWord.lower_or_digit (h : IsSmallWord word) :
    ∀ c ∈ word, c.isLower = true ∨ c.isDigit = true := by
  obtain ⟨-, lower, digit⟩ := h
  intro c hc
  exact (List.mem_append.1 hc).imp (lower c) (digit c)

theorem lowerWord_append (xs ys : List Char) :
    lowerWord (xs ++ ys) = lowerWord xs ++ lowerWord ys := List.map_append

theorem lowerWord_of_not_upper (h : ∀ c ∈ word, c.isUpper = false) : lowerWord word = word :=
  (List.map_congr_left fun c hc =>
    Char.toLower_eq_of_not_isUpper (by simp [h c hc])).trans (List.map_id' word)

theorem isLower_of_mem_lowerWord (h : ∀ c ∈ word, c.isAlpha = true) :
    ∀ c ∈ lowerWord word, c.isLower = true := by
  intro c hc
  obtain ⟨d, hd, rfl⟩ := List.mem_map.1 hc
  rw [Char.isLower_toLower_eq_isAlpha]
  exact h d hd

theorem lowerWord_lowerWord (word : List Char) : lowerWord (lowerWord word) = lowerWord word := by
  rw [lowerWord, lowerWord, List.map_map]
  exact List.map_congr_left fun c _ => Char.toLower_toLower_eq_toLower c

theorem isSmallWord_lowerWord (h : IsWord word) : IsSmallWord (lowerWord word) := by
  obtain ⟨letters, digits, rfl, halpha, hdigit⟩ := h.exists_letters
  have hkept : lowerWord digits = digits :=
    lowerWord_of_not_upper fun c hc => not_isUpper_of_isDigit (hdigit c hc)
  rw [lowerWord_append, hkept]
  exact .mk (by simpa [lowerWord] using h.ne_nil) (isLower_of_mem_lowerWord halpha) hdigit

/-- A small word is read as one word if no small letter or digit follows it. -/
theorem IsSmallWord.firstWord (h : IsSmallWord word) (hlower : Stops Char.isLower rest)
    (hdigit : Stops Char.isDigit rest) : FirstWord word rest := by
  obtain ⟨ne, lower, digit⟩ := h
  rename_i letters digits
  by_cases hnil : letters = []
  · subst hnil
    exact .number ne digit hdigit
  · exact .uncapitalised hnil lower digit (fun _ => hlower) hdigit

theorem IsSmallWord.append {digits : List Char} (h : IsSmallWord word)
    (hdigits : ∀ c ∈ digits, c.isDigit = true) : IsSmallWord (word ++ digits) := by
  obtain ⟨ne, lower, digit⟩ := h
  rw [List.append_assoc]
  refine .mk (by rw [← List.append_assoc]; exact List.append_ne_nil_of_left_ne_nil ne _) lower ?_
  exact fun c hc => (List.mem_append.1 hc).elim (digit c) (hdigits c)

theorem IsSmallWord.lowerWord (h : IsSmallWord word) : lowerWord word = word :=
  lowerWord_of_not_upper fun c hc =>
    (h.lower_or_digit c hc).elim not_isUpper_of_isLower not_isUpper_of_isDigit

end DataSchema.Text
