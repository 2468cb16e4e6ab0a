import DataSchema.Proofs.Text.Words

/-!
# Words among the bytes of a text

`octets` puts the bytes of its UTF-8 form in the place of each character, each byte as the character
of its code. ASCII stays as it is, and of any other character nothing comes that is ASCII. So a row
of ASCII characters is as long among the bytes as in the text, and what follows it is of the same
kinds (`exists_octets_cons`); hence the words of the bytes are the words of the text
(`words_octets`).
-/

namespace DataSchema.Text

variable {row rest text : List Char} {c d : Char} {test : Char → Bool}

/-! ## Bytes of one character -/

theorem toNat_ofUInt8 (b : UInt8) : (Char.ofUInt8 b).toNat = b.toNat := by
  rw [← Char.toNat_val]
  exact UInt8.toNat_toUInt32 b

theorem le_toNat_of_mem_utf8EncodeChar {b : UInt8} (h : 128 ≤ c.toNat)
    (hb : b ∈ String.utf8EncodeChar c) : 128 ≤ b.toNat := by
  -- A byte is a row of bits of the code behind a mark, and the mark alone is as large.
  have hmarked (bits mark : Nat) (hmark : 128 ≤ mark) (hbyte : bits + mark < 256) :
      128 ≤ (UInt8.ofNat (bits + mark)).toNat := by
    rw [UInt8.toNat_ofNat_of_lt' hbyte]
    exact Nat.le_add_left_of_le hmark
  rw [← Char.toNat_val] at h
  unfold String.utf8EncodeChar at hb
  dsimp only at hb
  split_ifs at hb <;> simp only [List.mem_cons, List.not_mem_nil, or_false] at hb
  · omega
  · rcases hb with rfl | rfl <;> exact hmarked _ _ (by omega) (by omega)
  · rcases hb with rfl | rfl | rfl <;> exact hmarked _ _ (by omega) (by omega)
  · rcases hb with rfl | rfl | rfl | rfl <;> exact hmarked _ _ (by omega) (by omega)

/-- The bytes of a character, as characters. -/
def octetsOf (c : Char) : List Char := (String.utf8EncodeChar c).map Char.ofUInt8

theorem octetsOf_of_lt (h : c.toNat < 128) : octetsOf c = [c] := by
  have hsize : c.utf8Size = 1 := by
    rw [Char.utf8Size_eq_one_iff, UInt32.le_iff_toNat_le, Char.toNat_val]
    exact Nat.le_of_lt_succ h
  have hcode : (Char.ofUInt8 c.val.toUInt8).toNat = c.toNat := by
    rw [toNat_ofUInt8, UInt32.toNat_toUInt8, Char.toNat_val]
    omega
  rw [octetsOf, String.utf8EncodeChar_eq_singleton hsize, List.map_singleton,
    Char.toNat_inj.1 hcode]

theorem le_toNat_of_mem_octetsOf (h : 128 ≤ c.toNat) (hd : d ∈ octetsOf c) : 128 ≤ d.toNat := by
  obtain ⟨b, hb, rfl⟩ := List.mem_map.1 hd
  rw [toNat_ofUInt8]
  exact le_toNat_of_mem_utf8EncodeChar h hb

/-! ## Kinds of ASCII characters -/

/-- A kind of characters that are all ASCII. -/
def Ascii (test : Char → Bool) : Prop := ∀ c, test c = true → c.toNat < 128

theorem ascii_isUpper : Ascii Char.isUpper := fun c h => by
  rw [isUpper_iff] at h
  omega

theorem ascii_isLower : Ascii Char.isLower := fun c h => by
  rw [isLower_iff] at h
  omega

theorem ascii_isDigit : Ascii Char.isDigit := fun c h => by
  rw [isDigit_iff] at h
  omega

theorem ascii_isAlphanum : Ascii Char.isAlphanum := fun c h => by
  simp only [Char.isAlphanum, Char.isAlpha, Bool.or_eq_true] at h
  exact h.elim (fun h => h.elim (ascii_isUpper c) (ascii_isLower c)) (ascii_isDigit c)

theorem ascii_isIdentifierChar : Ascii isIdentifierChar := fun c h => by
  simp only [isIdentifierChar, Bool.or_eq_true, decide_eq_true_eq] at h
  rcases h with h | rfl
  · exact ascii_isAlphanum c h
  · decide

theorem Ascii.eq_false (htest : Ascii test) (h : 128 ≤ c.toNat) : test c = false := by
  by_contra hc
  exact absurd (htest c (by simpa using hc)) (by omega)

/-- All bytes of a character are of a kind of ASCII characters, or none is. -/
theorem Ascii.of_mem_octetsOf (htest : Ascii test) (hd : d ∈ octetsOf c) : test d = test c := by
  by_cases h : c.toNat < 128
  · rw [octetsOf_of_lt h, List.mem_singleton] at hd
    rw [hd]
  · have hc : 128 ≤ c.toNat := Nat.le_of_not_lt h
    rw [htest.eq_false hc, htest.eq_false (le_toNat_of_mem_octetsOf hc hd)]

/-! ## Bytes of a text -/

/-- The bytes of a text, as characters. -/
def octets (text : List Char) : List Char := text.flatMap octetsOf

theorem octets_append_of_ascii (htest : Ascii test) (hrow : ∀ c ∈ row, test c = true) :
    octets (row ++ rest) = row ++ octets rest := by
  induction row with
  | nil => rfl
  | cons c row ih =>
    have hc : octetsOf c = [c] := octetsOf_of_lt (htest c (hrow c List.mem_cons_self))
    rw [List.cons_append, octets, List.flatMap_cons, ← octets, hc,
      ih fun x hx => hrow x (List.mem_cons_of_mem c hx)]
    rfl

/-- The bytes of a text begin with one that is of the same kinds as its first character. -/
theorem exists_octets_cons (c : Char) (rest : List Char) :
    ∃ d more, octets (c :: rest) = d :: more ∧ ∀ test, Ascii test → test d = test c := by
  have hne : octetsOf c ≠ [] := by
    rw [octetsOf, ne_eq, List.map_eq_nil_iff]
    exact String.utf8EncodeChar_ne_nil
  obtain ⟨d, more, hc⟩ := List.exists_cons_of_ne_nil hne
  refine ⟨d, more ++ octets rest, ?_, fun test htest => ?_⟩
  · rw [octets, List.flatMap_cons, hc]
    rfl
  · exact htest.of_mem_octetsOf (by rw [hc]; exact List.mem_cons_self)

theorem Stops.octets (htest : Ascii test) (h : Stops test text) : Stops test (octets text) := by
  cases text with
  | nil => exact h
  | cons c rest =>
    obtain ⟨d, more, htext, hd⟩ := exists_octets_cons c rest
    rw [stops_cons] at h
    rw [htext, stops_cons, hd test htest, h]

theorem runLength_octets (htest : Ascii test) (text : List Char) :
    runLength test (octets text) = runLength test text := by
  obtain ⟨row, rest, rfl, hrow, hrest⟩ := exists_row test text
  rw [octets_append_of_ascii htest hrow, runLength_append hrow (hrest.octets htest),
    runLength_append hrow hrest]

/-- A part of a row of ASCII characters is left out of the bytes as it is left out of the text. -/
theorem drop_octets (htest : Ascii test) {n : Nat} (hn : n ≤ runLength test text) :
    (octets text).drop n = octets (text.drop n) := by
  obtain ⟨row, rest, rfl, hrow, hrest⟩ := exists_row test text
  rw [runLength_append hrow hrest] at hn
  have hdrop : ∀ c ∈ row.drop n, test c = true := fun c hc => hrow c (List.mem_of_mem_drop hc)
  rw [octets_append_of_ascii htest hrow, List.drop_append_of_le_length hn,
    List.drop_append_of_le_length hn, octets_append_of_ascii htest hdrop]

/-- A text whose bytes are ASCII is its bytes. -/
theorem octets_eq_self (htest : Ascii test) (h : ∀ d ∈ octets text, test d = true) :
    octets text = text := by
  induction text with
  | nil => rfl
  | cons c text ih =>
    obtain ⟨d, more, htext, hd⟩ := exists_octets_cons c text
    have hc : test c = true := by
      rw [← hd test htest]
      exact h d (by rw [htext]; exact List.mem_cons_self)
    have hcons : octets ([c] ++ text) = [c] ++ octets text :=
      octets_append_of_ascii htest (List.forall_mem_singleton.2 hc)
    rw [List.singleton_append, List.singleton_append] at hcons
    rw [hcons] at h ⊢
    rw [ih fun x hx => h x (List.mem_cons_of_mem c hx)]

/-! ## Words of the bytes -/

theorem acronymLength?_octets (text : List Char) :
    acronymLength? (octets text) = acronymLength? text := by
  obtain ⟨row, rest, rfl, hrow, hrest⟩ := exists_row Char.isUpper text
  rw [octets_append_of_ascii ascii_isUpper hrow]
  cases rest with
  | nil => rfl
  | cons c rest =>
    obtain ⟨d, more, htext, hd⟩ := exists_octets_cons c rest
    rw [stops_cons] at hrest
    rw [htext, acronymLength?_cons hrow hrest,
      acronymLength?_cons hrow (by rw [hd _ ascii_isUpper, hrest]),
      hd _ ascii_isIdentifierChar, hd _ ascii_isLower]

theorem wordLength_octets (text : List Char) : wordLength (octets text) = wordLength text := by
  unfold wordLength
  rw [acronymLength?_octets, runLength_octets ascii_isUpper, runLength_octets ascii_isDigit]
  have hhead : (octets text).drop (min 1 (runLength Char.isUpper text)) =
      octets (text.drop (min 1 (runLength Char.isUpper text))) :=
    drop_octets ascii_isUpper (Nat.min_le_right _ _)
  have hlower (text : List Char) : (octets text).drop (runLength Char.isLower text) =
      octets (text.drop (runLength Char.isLower text)) :=
    drop_octets ascii_isLower le_rfl
  simp only [← List.drop_drop, hhead, runLength_octets ascii_isLower, hlower,
    runLength_octets ascii_isDigit]

theorem words_append_of_not_alphanum (hrow : ∀ c ∈ row, c.isAlphanum = false) :
    words (row ++ rest) = words rest := by
  induction row with
  | nil => rfl
  | cons c row ih =>
    rw [List.cons_append, words_cons_of_not_alphanum (hrow c List.mem_cons_self),
      ih fun x hx => hrow x (List.mem_cons_of_mem c hx)]

/-- **The words of a text are found among its bytes.** -/
theorem words_octets (text : List Char) : words (octets text) = words text := by
  induction text using words_induction with
  | nil => rfl
  | skip c rest hc ih =>
    have hrow : ∀ d ∈ octetsOf c, d.isAlphanum = false := fun d hd => by
      rw [ascii_isAlphanum.of_mem_octetsOf hd, hc]
    rw [words_cons_of_not_alphanum hc, octets, List.flatMap_cons, ← octets,
      words_append_of_not_alphanum hrow, ih]
  | word word rest hfirst ih =>
    have hoctets : octets (word ++ rest) = word ++ octets rest :=
      octets_append_of_ascii ascii_isAlphanum hfirst.isWord.isAlphanum
    have hlength : wordLength (word ++ octets rest) = word.length := by
      rw [← hoctets, wordLength_octets, hfirst.wordLength]
    rw [hoctets, words_append hfirst.ne_nil hlength, ih, hfirst.words]

end DataSchema.Text
