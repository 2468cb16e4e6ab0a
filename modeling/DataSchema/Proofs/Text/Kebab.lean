import DataSchema.Proofs.Text.Words

/-!
# Kebab case keeps words apart

**Theorem (`words_kebabCase`).** The words of a text in kebab case are the words of the text in
small letters. So kebab case changes nothing more in a text that has it, and its texts are rows of
small letters and digits with single hyphens between them.

In small letters every word, of whatever form, is a row of letters and then of digits
(`isSmallWord_lowerWord`). The hyphen behind it ends the row, so it is read as one word again.
-/

namespace DataSchema.Text

variable {word rest text : List Char}

theorem words_intercalate {rows : List (List Char)} (h : ∀ row ∈ rows, IsSmallWord row) :
    words (['-'].intercalate rows) = rows := by
  induction rows with
  | nil => exact words_nil
  | cons row rows ih =>
    have hrow := h row List.mem_cons_self
    have ih := ih fun r hr => h r (List.mem_cons_of_mem _ hr)
    cases rows with
    | nil =>
      have hword := (hrow.firstWord (stops_nil _) (stops_nil _)).words
      rw [List.append_nil, words_nil] at hword
      rwa [List.intercalate_singleton]
    | cons next rows =>
      have hfirst : FirstWord row ('-' :: ['-'].intercalate (next :: rows)) :=
        hrow.firstWord ((stops_cons _ _ _).2 rfl) ((stops_cons _ _ _).2 rfl)
      have hword := hfirst.words
      rw [words_cons_of_not_alphanum rfl, ih] at hword
      rwa [List.intercalate_cons_cons, List.append_assoc, List.singleton_append]

theorem isSmallWord_of_mem_map (text : List Char) :
    ∀ row ∈ (words text).map lowerWord, IsSmallWord row := by
  intro row hrow
  obtain ⟨word, hword, rfl⟩ := List.mem_map.1 hrow
  exact isSmallWord_lowerWord (isWord_of_mem_words hword)

theorem words_kebabChars (text : List Char) :
    words (kebabChars text) = (words text).map lowerWord :=
  words_intercalate (isSmallWord_of_mem_map text)

theorem kebabChars_kebabChars (text : List Char) :
    kebabChars (kebabChars text) = kebabChars text := by
  have hrows : ((words text).map lowerWord).map lowerWord = (words text).map lowerWord := by
    rw [List.map_map]
    exact List.map_congr_left fun word _ => lowerWord_lowerWord word
  calc kebabChars (kebabChars text)
      = ['-'].intercalate ((words (kebabChars text)).map lowerWord) := rfl
    _ = kebabChars text := by rw [words_kebabChars, hrows, kebabChars]

/-- **Kebab case keeps words.** They are the words of the text in small letters; a second time
changes nothing; and the text consists of non-empty rows of small letters and digits, with single
hyphens between them. -/
theorem words_kebabCase (text : String) :
    words (kebabCase text).toList = (words text.toList).map lowerWord ∧
    kebabCase (kebabCase text) = kebabCase text ∧
    ∃ rows : List (List Char), (kebabCase text).toList = ['-'].intercalate rows ∧
      ∀ row ∈ rows, row ≠ [] ∧ ∀ c ∈ row, c.isLower = true ∨ c.isDigit = true := by
  have hchars : (kebabCase text).toList = kebabChars text.toList := String.toList_ofList
  refine ⟨?_, ?_, (words text.toList).map lowerWord, hchars, ?_⟩
  · rw [hchars, words_kebabChars]
  · rw [kebabCase, hchars, kebabChars_kebabChars, kebabCase]
  · intro row hrow
    have hsmall := isSmallWord_of_mem_map text.toList row hrow
    exact ⟨hsmall.ne_nil, hsmall.lower_or_digit⟩

end DataSchema.Text
