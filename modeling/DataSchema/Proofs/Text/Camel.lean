import DataSchema.Proofs.Text.Words
import DataSchema.Validate.Scalar

/-!
# When camel case is stable

In camel case nothing stands between two words but the capital that the second one begins with.
One-letter words in a row become a row of capitals, and a row of capitals is read as one word where
it ends an identifier or stands before a capitalised word: `a b` becomes `AB`, which becomes `Ab`.

**Theorem (`camelCase_stable_iff`).** Camel case is stable exactly if no two one-letter words stand
next to each other at the end of the words or before a word that begins with two letters (`Fuse`).
In little camel case the first word counts for nothing.

A text in camel case is a row of letters and digits in which a small letter comes only behind a
letter (`Capitalised`). Such a text is split into words that are capitalised already, except for
rows of capitals that are read as one word. So the text is kept exactly if it has no such row
(`camelChars_eq_self_iff`), and the rows come from words that fuse (`hasAcronym_flatMap`).
-/

namespace DataSchema.Text

variable {word rest text : List Char} {ws : List (List Char)} {c d : Char}

/-! ## Words that fuse -/

/-- A word of one letter. -/
def isInitial : List Char → Bool
  | [c] => c.isAlpha
  | _ => false

def beginsWithTwoLetters : List Char → Bool
  | c :: d :: _ => c.isAlpha && d.isAlpha
  | _ => false

/-- Somewhere in a list of words, two words of one letter each stand at the end or before a word
that begins with two letters. -/
inductive Fuse : List (List Char) → Prop
  | here {v w : List Char} {rest : List (List Char)} (hv : isInitial v = true)
      (hw : isInitial w = true) (ends : ∀ x ∈ rest.head?, beginsWithTwoLetters x = true) :
      Fuse (v :: w :: rest)
  | later {w : List Char} {rest : List (List Char)} (h : Fuse rest) : Fuse (w :: rest)

theorem fuse_cons_iff :
    Fuse (word :: ws) ↔
      (isInitial word = true ∧ ∃ w tail, ws = w :: tail ∧ isInitial w = true ∧
        ∀ x ∈ tail.head?, beginsWithTwoLetters x = true) ∨ Fuse ws := by
  constructor
  · intro h
    cases h with
    | here hv hw ends => exact .inl ⟨hv, _, _, rfl, hw, ends⟩
    | later h => exact .inr h
  · rintro (⟨hv, w, tail, rfl, hw, ends⟩ | h)
    · exact .here hv hw ends
    · exact .later h

instance decidableFuse : DecidablePred Fuse
  | [] => .isFalse nofun
  | [w] => .isFalse fun h => by rcases fuse_cons_iff.1 h with ⟨-, _, _, h, -⟩ | h <;> cases h
  | v :: w :: rest =>
    have := decidableFuse (w :: rest)
    decidable_of_iff
      ((isInitial v = true ∧ isInitial w = true ∧
        ∀ x ∈ rest.head?, beginsWithTwoLetters x = true) ∨ Fuse (w :: rest))
      (by rw [@fuse_cons_iff v]; simp)

/-- A text has a row of capitals that is a word of its own. -/
inductive HasAcronym : List Char → Prop
  | here {c d : Char} {rest : List Char} (hc : c.isUpper = true) (hd : d.isUpper = true)
      (ends : EndsAcronym rest) : HasAcronym (c :: d :: rest)
  | later {c : Char} {rest : List Char} (h : HasAcronym rest) : HasAcronym (c :: rest)

theorem not_hasAcronym_nil : ¬ HasAcronym [] := nofun

theorem hasAcronym_cons_iff :
    HasAcronym (c :: rest) ↔
      (c.isUpper = true ∧ ∃ d tail, rest = d :: tail ∧ d.isUpper = true ∧ EndsAcronym tail) ∨
        HasAcronym rest := by
  constructor
  · intro h
    cases h with
    | here hc hd ends => exact .inl ⟨hc, _, _, rfl, hd, ends⟩
    | later h => exact .inr h
  · rintro (⟨hc, d, tail, rfl, hd, ends⟩ | h)
    · exact .here hc hd ends
    · exact .later h

/-- Characters that are no capitals belong to no row of capitals. -/
theorem hasAcronym_append_iff {row : List Char} (h : ∀ c ∈ row, c.isUpper = false) :
    HasAcronym (row ++ rest) ↔ HasAcronym rest := by
  induction row with
  | nil => rfl
  | cons c row ih =>
    rw [List.cons_append, hasAcronym_cons_iff, ih fun x hx => h x (List.mem_cons_of_mem c hx)]
    refine or_iff_right ?_
    rintro ⟨hc, -⟩
    rw [h c List.mem_cons_self] at hc
    cases hc

/-- Nor does a single capital before such characters. -/
theorem hasAcronym_cons_append_iff {row : List Char} (hne : row ≠ [])
    (h : ∀ c ∈ row, c.isUpper = false) : HasAcronym (c :: (row ++ rest)) ↔ HasAcronym rest := by
  rw [hasAcronym_cons_iff, hasAcronym_append_iff h]
  refine or_iff_right ?_
  rintro ⟨-, d, tail, htext, hd, -⟩
  have hstop : Stops Char.isUpper (row ++ rest) := .of_forall hne h
  rw [htext, stops_cons, hd] at hstop
  cases hstop

theorem hasAcronym_of_row {row : List Char} (two : 2 ≤ row.length)
    (upper : ∀ c ∈ row, c.isUpper = true) (ends : EndsAcronym rest) : HasAcronym (row ++ rest) := by
  induction row with
  | nil => simp at two
  | cons c row ih =>
    have htail : ∀ x ∈ row, x.isUpper = true := fun x hx => upper x (List.mem_cons_of_mem c hx)
    rcases row with _ | ⟨d, _ | ⟨e, row⟩⟩
    · simp at two
    · exact .here (upper c List.mem_cons_self) (htail d List.mem_cons_self) ends
    · exact .later (ih (by simp) htail)

/-! ## Capitalised words -/

theorem capitalizedWord_cons (c : Char) (word : List Char) :
    capitalizedWord (c :: word) = c.toUpper :: lowerWord word :=
  congrArg (· :: lowerWord word) (Char.toUpper_toLower_eq_toUpper c)

theorem length_capitalizedWord (word : List Char) :
    (capitalizedWord word).length = word.length := by
  cases word with
  | nil => rfl
  | cons c word =>
    rw [capitalizedWord_cons, List.length_cons, lowerWord, List.length_map, List.length_cons]

theorem not_isUpper_of_mem_lowerWord (word : List Char) :
    ∀ c ∈ lowerWord word, c.isUpper = false := by
  intro c hc
  obtain ⟨d, -, rfl⟩ := List.mem_map.1 hc
  exact Char.isUpper_toLower_eq_false d

theorem isAlphanum_toUpper (h : c.isAlphanum = true) : c.toUpper.isAlphanum = true := by
  rw [Char.isAlphanum, Bool.or_eq_true] at h
  rcases h with h | h
  · exact isAlphanum_of_isAlpha ((Char.isAlpha_toUpper_eq_isAlpha c).trans h)
  · rw [Char.toUpper_eq_of_not_isLower (by simp [not_isLower_of_isDigit h])]
    exact isAlphanum_of_isDigit h

theorem EndsAcronym.isUpper (h : EndsAcronym (c :: rest)) (hc : c.isAlphanum = true) :
    c.isUpper = true := by
  cases h with
  | separator hsep => rw [isIdentifierChar, hc, Bool.true_or] at hsep; cases hsep
  | capitalised upper => exact upper

theorem isAlphanum_toLower (h : c.isAlphanum = true) : c.toLower.isAlphanum = true := by
  rw [Char.isAlphanum, Bool.or_eq_true] at h
  rcases h with h | h
  · exact isAlphanum_of_isAlpha ((Char.isAlpha_toLower_eq_isAlpha c).trans h)
  · rw [Char.toLower_eq_of_not_isUpper (by simp [not_isUpper_of_isDigit h])]
    exact isAlphanum_of_isDigit h

/-- What ends a row of capitals, in terms of the words behind it. -/
theorem endsAcronym_flatMap (h : ∀ w ∈ ws, IsWord w) :
    EndsAcronym (ws.flatMap capitalizedWord) ↔ ∀ w ∈ ws.head?, beginsWithTwoLetters w = true := by
  cases ws with
  | nil => exact ⟨fun _ => nofun, fun _ => .nil⟩
  | cons w ws =>
    have hw : IsWord w := h w List.mem_cons_self
    obtain ⟨c, word, rfl⟩ := List.exists_cons_of_ne_nil hw.ne_nil
    have hc : isIdentifierChar c.toUpper = true := by
      rw [isIdentifierChar, isAlphanum_toUpper (hw.isAlphanum c List.mem_cons_self), Bool.true_or]
    have hsecond : EndsAcronym (c.toUpper :: (lowerWord word ++ ws.flatMap capitalizedWord)) ↔
        ∃ d tail, lowerWord word ++ ws.flatMap capitalizedWord = d :: tail ∧ c.isAlpha = true ∧
          d.isLower = true := by
      constructor
      · intro hends
        generalize htext : lowerWord word ++ ws.flatMap capitalizedWord = tail at hends
        cases hends with
        | separator hsep => rw [hc] at hsep; cases hsep
        | capitalised upper lower =>
          exact ⟨_, _, rfl, (Char.isUpper_toUpper_eq_isAlpha c).symm.trans upper, lower⟩
      · rintro ⟨d, tail, htext, halpha, lower⟩
        rw [htext]
        exact .capitalised ((Char.isUpper_toUpper_eq_isAlpha c).trans halpha) lower
    simp only [List.flatMap_cons, capitalizedWord_cons, List.cons_append, hsecond, List.head?_cons,
      Option.mem_def, Option.some.injEq, forall_eq']
    cases word with
    | nil =>
      -- The next word begins with no small letter.
      simp only [beginsWithTwoLetters, Bool.false_eq_true, iff_false]
      rintro ⟨d, tail, htext, -, lower⟩
      cases ws with
      | nil => cases htext
      | cons v ws =>
        obtain ⟨e, v, rfl⟩ := List.exists_cons_of_ne_nil (h v (by simp)).ne_nil
        rw [List.flatMap_cons, capitalizedWord_cons] at htext
        obtain ⟨rfl, -⟩ := List.cons.inj htext
        rw [Char.isLower_toUpper_eq_false] at lower
        cases lower
    | cons e word =>
      simp [lowerWord, beginsWithTwoLetters]

/-- What begins with the last capital of a row, in terms of its word and of the words behind it. -/
theorem exists_lastCapital_iff (h : ∀ w ∈ ws, IsWord w) :
    (∃ d tail, ws.flatMap capitalizedWord = d :: tail ∧ d.isUpper = true ∧ EndsAcronym tail) ↔
      ∃ w tail, ws = w :: tail ∧ isInitial w = true ∧
        ∀ x ∈ tail.head?, beginsWithTwoLetters x = true := by
  cases ws with
  | nil => constructor <;> rintro ⟨_, _, h, -⟩ <;> cases h
  | cons w ws =>
    have hw : IsWord w := h w List.mem_cons_self
    have hrest := endsAcronym_flatMap fun v hv => h v (List.mem_cons_of_mem w hv)
    obtain ⟨e, word, rfl⟩ := List.exists_cons_of_ne_nil hw.ne_nil
    rw [List.flatMap_cons, capitalizedWord_cons]
    constructor
    · rintro ⟨d, tail, htext, upper, ends⟩
      obtain ⟨rfl, rfl⟩ := List.cons.inj htext
      refine ⟨e :: word, ws, rfl, ?_⟩
      cases word with
      | nil => exact ⟨(Char.isUpper_toUpper_eq_isAlpha e).symm.trans upper, hrest.1 ends⟩
      | cons f word =>
        -- The second character of the word is no capital, so nothing ends a row here.
        have hf := ends.isUpper (isAlphanum_toLower (hw.isAlphanum f (by simp)))
        rw [Char.isUpper_toLower_eq_false] at hf
        cases hf
    · rintro ⟨w, tail, hws, hw, ends⟩
      obtain ⟨rfl, rfl⟩ := List.cons.inj hws
      cases word with
      | nil => exact ⟨_, _, rfl, (Char.isUpper_toUpper_eq_isAlpha e).trans hw, hrest.2 ends⟩
      | cons => cases hw

/-- Rows of capitals come from words that fuse. -/
theorem hasAcronym_flatMap (h : ∀ w ∈ ws, IsWord w) :
    HasAcronym (ws.flatMap capitalizedWord) ↔ Fuse ws := by
  induction ws with
  | nil => exact ⟨nofun, nofun⟩
  | cons w ws ih =>
    have hrest : ∀ v ∈ ws, IsWord v := fun v hv => h v (List.mem_cons_of_mem w hv)
    obtain ⟨c, word, rfl⟩ := List.exists_cons_of_ne_nil (h w List.mem_cons_self).ne_nil
    rw [List.flatMap_cons, capitalizedWord_cons, List.cons_append, fuse_cons_iff, ← ih hrest]
    cases word with
    | nil =>
      show HasAcronym (c.toUpper :: ws.flatMap capitalizedWord) ↔ _
      rw [hasAcronym_cons_iff, exists_lastCapital_iff hrest, Char.isUpper_toUpper_eq_isAlpha,
        isInitial]
    | cons e word =>
      have hne : lowerWord (e :: word) ≠ [] := List.cons_ne_nil _ _
      rw [hasAcronym_cons_append_iff hne (not_isUpper_of_mem_lowerWord (e :: word))]
      simp [isInitial]

/-! ## Reading a text in camel case -/

/-- A row of letters and digits in which a small letter comes only behind a letter. -/
structure Capitalised (text : List Char) : Prop where
  alphanum : ∀ c ∈ text, c.isAlphanum = true
  start : Stops Char.isLower text
  follow : text.IsChain fun c d => d.isLower = true → c.isAlpha = true

theorem capitalised_nil : Capitalised [] := ⟨nofun, stops_nil _, .nil⟩

theorem Capitalised.append (h : Capitalised word) (hrest : Capitalised rest) :
    Capitalised (word ++ rest) := by
  refine ⟨fun c hc => (List.mem_append.1 hc).elim (h.alphanum c) (hrest.alphanum c), ?_, ?_⟩
  · cases word with
    | nil => exact hrest.start
    | cons c word => exact (stops_cons _ c _).2 ((stops_cons _ c _).1 h.start)
  · refine List.isChain_append.2 ⟨h.follow, hrest.follow, fun c _ d hd lower => ?_⟩
    rw [hrest.start d hd] at lower
    cases lower

theorem Capitalised.of_append (h : Capitalised (word ++ rest)) (hrest : Stops Char.isLower rest) :
    Capitalised rest :=
  ⟨fun c hc => h.alphanum c (List.mem_append_right word hc), hrest,
    (List.isChain_append.1 h.follow).2.1⟩

/-- No small letter comes behind a digit. -/
theorem Capitalised.stops (h : Capitalised (word ++ rest)) (hne : word ≠ [])
    (hlast : (word.getLast hne).isDigit = true) : Stops Char.isLower rest := by
  intro d hd
  have hfollow := (List.isChain_append.1 h.follow).2.2 _ (List.getLast_mem_getLast? hne) d hd
  rw [not_isAlpha_of_isDigit hlast] at hfollow
  simpa using hfollow

theorem capitalizedWord_of_digits (h : ∀ c ∈ word, c.isDigit = true) :
    capitalizedWord word = word := by
  cases word with
  | nil => rfl
  | cons c word =>
    have hc : ¬ c.isLower = true := by simp [not_isLower_of_isDigit (h c List.mem_cons_self)]
    rw [capitalizedWord_cons, Char.toUpper_eq_of_not_isLower hc, lowerWord_of_not_upper]
    exact fun d hd => not_isUpper_of_isDigit (h d (List.mem_cons_of_mem c hd))

theorem capitalizedWord_append {letters digits : List Char} (h : ∀ c ∈ digits, c.isDigit = true) :
    capitalizedWord (letters ++ digits) = capitalizedWord letters ++ digits := by
  cases letters with
  | nil => exact capitalizedWord_of_digits h
  | cons c letters =>
    have hkept : lowerWord digits = digits :=
      lowerWord_of_not_upper fun d hd => not_isUpper_of_isDigit (h d hd)
    rw [List.cons_append, capitalizedWord_cons, capitalizedWord_cons, lowerWord_append, hkept,
      List.cons_append]

theorem isAlpha_of_mem_capitalizedWord (h : ∀ c ∈ word, c.isAlpha = true) :
    ∀ c ∈ capitalizedWord word, c.isAlpha = true := by
  cases word with
  | nil => nofun
  | cons c word =>
    rw [capitalizedWord_cons]
    intro d hd
    rcases List.mem_cons.1 hd with rfl | hd
    · exact (Char.isAlpha_toUpper_eq_isAlpha c).trans (h c List.mem_cons_self)
    · exact isAlpha_of_isLower
        (isLower_of_mem_lowerWord (fun e he => h e (List.mem_cons_of_mem c he)) d hd)

theorem stops_capitalizedWord (word : List Char) : Stops Char.isLower (capitalizedWord word) := by
  cases word with
  | nil => exact stops_nil _
  | cons c word =>
    rw [capitalizedWord_cons, stops_cons]
    exact Char.isLower_toUpper_eq_false c

theorem capitalised_capitalizedWord (h : IsWord word) : Capitalised (capitalizedWord word) := by
  have hstart := stops_capitalizedWord word
  obtain ⟨letters, digits, rfl, halpha, hdigit⟩ := h.exists_letters
  rw [capitalizedWord_append hdigit] at hstart ⊢
  have hletters := isAlpha_of_mem_capitalizedWord halpha
  refine ⟨fun c hc => ?_, hstart, List.Pairwise.isChain (List.pairwise_append.2 ⟨?_, ?_, ?_⟩)⟩
  · exact (List.mem_append.1 hc).elim (fun hc => isAlphanum_of_isAlpha (hletters c hc))
      fun hc => isAlphanum_of_isDigit (hdigit c hc)
  · exact List.pairwise_of_forall_mem_list fun c hc _ _ _ => hletters c hc
  · refine List.pairwise_of_forall_mem_list fun _ _ d hd lower => ?_
    rw [not_isLower_of_isDigit (hdigit d hd)] at lower
    cases lower
  · exact fun c hc _ _ _ => hletters c hc

theorem capitalised_flatMap (h : ∀ w ∈ ws, IsWord w) :
    Capitalised (ws.flatMap capitalizedWord) := by
  induction ws with
  | nil => exact capitalised_nil
  | cons w ws ih =>
    rw [List.flatMap_cons]
    exact (capitalised_capitalizedWord (h w List.mem_cons_self)).append
      (ih fun v hv => h v (List.mem_cons_of_mem w hv))

theorem FirstWord.camelChars_append (h : FirstWord word rest) :
    camelChars (word ++ rest) = capitalizedWord word ++ camelChars rest := by
  rw [camelChars, h.words, List.flatMap_cons, camelChars]

/-- Camel case keeps a text if it keeps its first word and what follows. -/
theorem FirstWord.camelChars_eq_self_iff (h : FirstWord word rest) :
    camelChars (word ++ rest) = word ++ rest ↔
      capitalizedWord word = word ∧ camelChars rest = rest := by
  rw [h.camelChars_append]
  constructor
  · exact fun heq => List.append_inj heq (length_capitalizedWord word)
  · rintro ⟨hword, hrest⟩
    rw [hword, hrest]

theorem capitalizedWord_ne_of_capitals (two : 2 ≤ word.length)
    (upper : ∀ c ∈ word, c.isUpper = true) : capitalizedWord word ≠ word := by
  rcases word with _ | ⟨c, _ | ⟨d, word⟩⟩
  · simp at two
  · simp at two
  · intro heq
    rw [capitalizedWord_cons] at heq
    have hd : d.toLower = d := (List.cons.inj (List.cons.inj heq).2).1
    have hupper := Char.isUpper_toLower_eq_false d
    rw [hd, upper d (by simp)] at hupper
    cases hupper

theorem capitalizedWord_eq_self (hc : c.isLower = false) (h : ∀ d ∈ word, d.isUpper = false) :
    capitalizedWord (c :: word) = c :: word := by
  rw [capitalizedWord_cons, Char.toUpper_eq_of_not_isLower (by simp [hc]), lowerWord_of_not_upper h]

/-- A text in camel case is kept exactly if it has no row of capitals that is read as one word. -/
theorem camelChars_eq_self_iff (h : Capitalised text) :
    camelChars text = text ↔ ¬ HasAcronym text := by
  induction text using words_induction with
  | nil => exact iff_of_true (by rw [camelChars, words_nil]; rfl) not_hasAcronym_nil
  | skip c rest hc =>
    rw [h.alphanum c List.mem_cons_self] at hc
    cases hc
  | word word rest hfirst ih =>
    rw [hfirst.camelChars_eq_self_iff]
    cases hfirst with
    | acronym two upper ends =>
      exact iff_of_false (fun heq => capitalizedWord_ne_of_capitals two upper heq.1)
        (not_not_intro (hasAcronym_of_row two upper ends))
    | @small head letters digits rest head_le upper ne lower digit lower_ends digit_ends =>
      have hstop : Stops Char.isLower rest := by
        by_cases hnil : digits = []
        · exact lower_ends hnil
        · refine h.stops (by simp [ne]) ?_
          rw [List.getLast_append_of_ne_nil _ (by simp [hnil]),
            List.getLast_append_of_ne_nil _ hnil]
          exact digit _ (List.getLast_mem hnil)
      have hbody : ∀ c ∈ letters ++ digits, c.isUpper = false := fun c hc =>
        (List.mem_append.1 hc).elim (fun hc => not_isUpper_of_isLower (lower c hc))
          fun hc => not_isUpper_of_isDigit (digit c hc)
      rcases head with _ | ⟨c, _ | ⟨d, head⟩⟩
      · obtain ⟨c, letters, rfl⟩ := List.exists_cons_of_ne_nil ne
        have hstart : c.isLower = false := (stops_cons _ _ _).1 h.start
        rw [lower c List.mem_cons_self] at hstart
        cases hstart
      · have hc := not_isLower_of_isUpper (upper c List.mem_cons_self)
        have hacronym : HasAcronym ([c] ++ (letters ++ digits) ++ rest) ↔ HasAcronym rest :=
          hasAcronym_cons_append_iff (by simp [ne]) hbody
        rw [hacronym, ← ih (h.of_append hstop)]
        exact and_iff_right (capitalizedWord_eq_self hc hbody)
      · simp at head_le
    | @capital c rest upper ends alone =>
      have hacronym : HasAcronym ([c] ++ rest) ↔ HasAcronym rest := by
        refine hasAcronym_cons_iff.trans (or_iff_right ?_)
        rintro ⟨-, d, tail, rfl, hd, ends⟩
        have hrow : acronymLength? ([c, d] ++ tail) = some [c, d].length :=
          ends.acronymLength? le_rfl (by simp [upper, hd])
        rw [List.cons_append, List.singleton_append, alone] at hrow
        cases hrow
      rw [hacronym, ← ih (h.of_append ends)]
      exact and_iff_right (capitalizedWord_eq_self (not_isLower_of_isUpper upper) (by simp))
    | number ne digit ends =>
      have hstop : Stops Char.isLower rest := h.stops ne (digit _ (List.getLast_mem ne))
      rw [hasAcronym_append_iff fun c hc => not_isUpper_of_isDigit (digit c hc),
        ← ih (h.of_append hstop)]
      exact and_iff_right (capitalizedWord_of_digits digit)

theorem camelChars_camelChars_iff (text : List Char) :
    camelChars (camelChars text) = camelChars text ↔ ¬ Fuse (words text) := by
  have hwords : ∀ w ∈ words text, IsWord w := fun _ => isWord_of_mem_words
  rw [← hasAcronym_flatMap hwords]
  exact camelChars_eq_self_iff (capitalised_flatMap hwords)

/-! ## Little camel case -/

theorem FirstWord.littleCamelChars_append (h : FirstWord word rest) :
    littleCamelChars (word ++ rest) = lowerWord word ++ camelChars rest := by
  rw [littleCamelChars, h.words, camelChars]

/-- A small word takes the digits behind it, and the rest is kept as in camel case. -/
theorem littleCamelChars_append_iff (hword : IsSmallWord word) (hrest : Capitalised rest) :
    littleCamelChars (word ++ rest) = word ++ rest ↔ ¬ HasAcronym rest := by
  obtain ⟨digits, rest, rfl, hdigits, hdigit⟩ := exists_row Char.isDigit rest
  have hlower : Stops Char.isLower rest := by
    by_cases hnil : digits = []
    · subst hnil
      exact hrest.start
    · exact hrest.stops hnil (hdigits _ (List.getLast_mem hnil))
  have hsmall := hword.append hdigits
  rw [← List.append_assoc, (hsmall.firstWord hlower hdigit).littleCamelChars_append,
    hsmall.lowerWord, List.append_cancel_left_eq, camelChars_eq_self_iff (hrest.of_append hlower),
    hasAcronym_append_iff fun c hc => not_isUpper_of_isDigit (hdigits c hc)]

theorem littleCamelChars_littleCamelChars_iff (text : List Char) :
    littleCamelChars (littleCamelChars text) = littleCamelChars text ↔
      ¬ Fuse (words text).tail := by
  have hwords : ∀ w ∈ words text, IsWord w := fun _ => isWord_of_mem_words
  cases h : words text with
  | nil =>
    have hnil : littleCamelChars text = [] := by rw [littleCamelChars, h]
    rw [hnil]
    exact iff_of_true (by rw [littleCamelChars, words_nil]) nofun
  | cons w ws =>
    rw [h] at hwords
    have hrest : ∀ v ∈ ws, IsWord v := fun v hv => hwords v (List.mem_cons_of_mem w hv)
    have htext : littleCamelChars text = lowerWord w ++ ws.flatMap capitalizedWord := by
      rw [littleCamelChars, h]
    rw [htext, List.tail_cons, ← hasAcronym_flatMap hrest]
    exact littleCamelChars_append_iff (isSmallWord_lowerWord (hwords w List.mem_cons_self))
      (capitalised_flatMap hrest)

/-! ## Validating again -/

/-- What a transform makes of a text is validated like the text itself, against any schema that has
this transform only. -/
def ValidatedAlike (t : StringTransform) (text : String) : Prop :=
  ∀ (s : Schema) (c : StringSchema), s.kind = .string c → c.transform = some [t] →
    Validate.string s (some (.str (Validate.transformed text t))) =
      Validate.string s (some (.str text))

theorem validatedAlike_of_stable {t : StringTransform} {text : String}
    (h : Validate.transformed (Validate.transformed text t) t = Validate.transformed text t) :
    ValidatedAlike t text := by
  intro s c hk ht
  have hgiven (text : String) :
      Validate.given s (some (.str text)) = pure (some (.str text)) := rfl
  unfold Validate.string
  simp only [hk, ht, hgiven, pure_bind, Option.getD_some, List.foldl_cons, List.foldl_nil, h]

/-- **Camel case is stable** exactly for texts of which no one-letter words fuse, and little camel
case if none of the words behind the first one do. Validating what it made of such a text changes
nothing. -/
theorem camelCase_stable_iff (text : String) :
    (camelCase (camelCase text) = camelCase text ↔ ¬ Fuse (words text.toList)) ∧
    (littleCamelCase (littleCamelCase text) = littleCamelCase text ↔
      ¬ Fuse (words text.toList).tail) ∧
    (¬ Fuse (words text.toList) → ValidatedAlike .camelCase text) ∧
    (¬ Fuse (words text.toList).tail → ValidatedAlike .littleCamelCase text) := by
  have hcamel : camelCase (camelCase text) = camelCase text ↔ ¬ Fuse (words text.toList) := by
    rw [← camelChars_camelChars_iff, camelCase, camelCase, String.toList_ofList, String.ofList_inj]
  have hlittle : littleCamelCase (littleCamelCase text) = littleCamelCase text ↔
      ¬ Fuse (words text.toList).tail := by
    rw [← littleCamelChars_littleCamelChars_iff, littleCamelCase, littleCamelCase,
      String.toList_ofList, String.ofList_inj]
  exact ⟨hcamel, hlittle, fun h => validatedAlike_of_stable (hcamel.2 h),
    fun h => validatedAlike_of_stable (hlittle.2 h)⟩

/-- Words of one letter are harmless before a word that begins with one letter and a digit. -/
theorem camelCase_stable_vector :
    ¬ Fuse (words "plot x y z1 of XMLHttp".toList) ∧
      camelCase (camelCase "plot x y z1 of XMLHttp") = camelCase "plot x y z1 of XMLHttp" ∧
      ValidatedAlike .camelCase "plot x y z1 of XMLHttp" := by
  have hfuse : ¬ Fuse (words "plot x y z1 of XMLHttp".toList) := by decide +kernel
  have hstable := camelCase_stable_iff "plot x y z1 of XMLHttp"
  exact ⟨hfuse, hstable.1.2 hfuse, hstable.2.2.1 hfuse⟩

/-- Two one-letter words become an acronym, and then a capitalised word. -/
theorem camelCase_not_stable :
    camelCase (camelCase "a b") ≠ camelCase "a b" ∧
      littleCamelCase (littleCamelCase "a b c") ≠ littleCamelCase "a b c" := by
  decide +kernel

end DataSchema.Text
