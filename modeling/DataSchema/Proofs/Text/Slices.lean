import DataSchema.Proofs.Text.Octets
import DataSchema.Text.Slices

/-!
# Words are found in place

**Theorem (`exists_wordSlices`).** The search for the words of a text over its bytes ends within as
many rounds as there are bytes, and asks for no bytes and for no slice that the text does not have.
What it finds are slices of the text, one behind the other, that hold its words: none is empty, each
is of the form of a word, and in a row they are the text without what is no ASCII letter or digit.

At any place, also inside a character, the length of the word among the bytes is that of the first
word of the octets from there on (`wordLengthAt?_eq`). So a round takes a word or a separator from
the octets, and both are one byte long at least. An ASCII byte stands between two characters
(`isValid_of_ascii`), so the ends of a word are the ends of a slice.
-/

namespace DataSchema.Text

variable {s : String} {word rest text : List Char} {c : Char} {test : Char → Bool}
  {slice : String.Slice} {slices : List String.Slice} {place start stop : Nat}

/-! ## Bytes of a text and of its slices -/

theorem length_bytes (s : String) : (bytes s).length = s.utf8ByteSize := by
  rw [bytes, Array.length_toList, ByteArray.size_data, String.size_toByteArray]

theorem map_bytes (s : String) : (bytes s).map Char.ofUInt8 = octets s.toList := by
  rw [bytes, ← String.utf8Encode_toList, List.utf8Encode, List.toList_data_toByteArray,
    List.map_flatMap]
  rfl

theorem length_octets (s : String) : (octets s.toList).length = (bytes s).length := by
  rw [← map_bytes, List.length_map]

theorem lt_length_of_drop (hne : text ≠ []) (h : (octets s.toList).drop place = text) :
    place < (bytes s).length := by
  by_contra hle
  rw [List.drop_eq_nil_of_le (by rw [length_octets]; omega)] at h
  exact hne h.symm

/-- A slice of a text stands between two places among its bytes. -/
structure Spans (slice : String.Slice) (s : String) (start stop : Nat) : Prop where
  str : slice.str = s
  start : slice.startInclusive.offset.byteIdx = start
  stop : slice.endExclusive.offset.byteIdx = stop

theorem Spans.octets_copy (h : Spans slice s start stop) :
    octets slice.copy.toList = ((octets s.toList).drop start).take (stop - start) := by
  have hbytes : bytes slice.copy = ((bytes s).drop start).take (stop - start) := by
    rw [← h.str, ← h.start, ← h.stop, bytes, String.Slice.toByteArray_copy, ByteArray.data_extract,
      Array.toList_extract, List.extract_eq_take_drop]
    rfl
  rw [← map_bytes, hbytes, List.map_take, List.map_drop, map_bytes]

/-- There is a slice between two places that stand between characters. -/
theorem exists_slice?_of_isValid (hstart : (⟨start⟩ : String.Pos.Raw).IsValid s)
    (hstop : (⟨stop⟩ : String.Pos.Raw).IsValid s) (hle : start ≤ stop) :
    ∃ slice, slice? s start stop = some slice ∧ Spans slice s start stop := by
  have hpos {n : Nat} (h : (⟨n⟩ : String.Pos.Raw).IsValid s) :
      s.pos? ⟨n⟩ = some (s.pos ⟨n⟩ h) := by
    have hvalid := String.Pos.Raw.isValidForSlice_eq_true_iff.2 h.toSlice
    rw [String.pos?, String.Slice.pos?, dif_pos hvalid]
    rfl
  have hle : s.pos ⟨start⟩ hstart ≤ s.pos ⟨stop⟩ hstop := hle
  refine ⟨s.slice _ _ hle, ?_, rfl, ?_, ?_⟩
  · rw [slice?, hpos hstart, hpos hstop]
    exact dif_pos hle
  · rw [String.startInclusive_slice, String.offset_pos]
  · rw [String.endExclusive_slice, String.offset_pos]

/-! ## ASCII in a text -/

theorem and_eq_zero_of_lt {b : UInt8} (h : b.toNat < 128) : b &&& 0x80 = 0 := by
  have hall : ∀ n < 128, UInt8.ofNat n &&& 0x80 = 0 := by decide
  have hb := hall b.toNat h
  rwa [UInt8.ofNat_toNat] at hb

/-- A byte below 128 is a character of its own. -/
theorem isValid_of_lt (hplace : place < s.utf8ByteSize)
    (hb : (s.getUTF8Byte ⟨place⟩ hplace).toNat < 128) :
    (⟨place⟩ : String.Pos.Raw).IsValid s ∧ (⟨place + 1⟩ : String.Pos.Raw).IsValid s := by
  have hbits := and_eq_zero_of_lt hb
  have hstart : (⟨place⟩ : String.Pos.Raw).IsValid s :=
    String.Pos.Raw.isValid_iff_isUTF8FirstByte.2 (.inr ⟨hplace, .inl hbits⟩)
  have hend : s.pos ⟨place⟩ hstart ≠ s.endPos := by
    intro h
    have hoffset : place = s.utf8ByteSize := congrArg (·.offset.byteIdx) h
    omega
  have hsize : ((s.pos ⟨place⟩ hstart).get hend).utf8Size = 1 := by
    rw [← String.Pos.utf8ByteSize_byte, UInt8.utf8ByteSize, if_pos]
    rwa [← String.Pos.getUTF8Byte_offset]
  have hnext : ((s.pos ⟨place⟩ hstart).next hend).offset = ⟨place + 1⟩ := by
    ext
    rw [String.Pos.byteIdx_offset_next, hsize, String.offset_pos]
  refine ⟨hstart, ?_⟩
  rw [← hnext]
  exact ((s.pos ⟨place⟩ hstart).next hend).isValid

theorem isValid_of_ascii (hc : (octets s.toList)[place]? = some c) (hascii : c.toNat < 128) :
    (⟨place⟩ : String.Pos.Raw).IsValid s ∧ (⟨place + 1⟩ : String.Pos.Raw).IsValid s := by
  rw [← map_bytes, List.getElem?_map, Option.map_eq_some_iff] at hc
  obtain ⟨b, hb, rfl⟩ := hc
  obtain ⟨hplace, hb⟩ := List.getElem?_eq_some_iff.1 hb
  rw [toNat_ofUInt8, ← hb] at hascii
  exact isValid_of_lt (length_bytes s ▸ hplace) hascii

/-- A row of ASCII characters among the bytes is a slice of the text, and reads the same in it. -/
theorem exists_slice?_of_ascii (htest : Ascii test) (hne : word ≠ [])
    (hword : ∀ c ∈ word, test c = true) (h : (octets s.toList).drop place = word ++ rest) :
    ∃ slice, slice? s place (place + word.length) = some slice ∧
      Spans slice s place (place + word.length) ∧ slice.copy.toList = word := by
  have hpositive : 0 < word.length := List.length_pos_iff.2 hne
  have hvalid {i : Nat} (hi : i < word.length) :
      (⟨place + i⟩ : String.Pos.Raw).IsValid s ∧ (⟨place + i + 1⟩ : String.Pos.Raw).IsValid s := by
    have hc : (octets s.toList)[place + i]? = some word[i] := by
      rw [← List.getElem?_drop, h, List.getElem?_append_left hi, List.getElem?_eq_getElem hi]
    exact isValid_of_ascii hc (htest _ (hword _ (List.getElem_mem hi)))
  have hstart : (⟨place⟩ : String.Pos.Raw).IsValid s := (hvalid hpositive).1
  have hstop : (⟨place + word.length⟩ : String.Pos.Raw).IsValid s := by
    have hlast := (hvalid (Nat.sub_one_lt_of_lt hpositive)).2
    rwa [Nat.add_assoc, Nat.sub_add_cancel hpositive] at hlast
  obtain ⟨slice, hslice, hspans⟩ := exists_slice?_of_isValid hstart hstop (Nat.le_add_right _ _)
  have hoctets : octets slice.copy.toList = word := by
    rw [hspans.octets_copy, h, Nat.add_sub_cancel_left, List.take_left]
  refine ⟨slice, hslice, hspans, ?_⟩
  rw [← hoctets] at hword
  rw [← octets_eq_self htest hword, hoctets]

/-! ## The word at a place -/

section Place

variable {bytes : List UInt8}

theorem runLength_le_length (test : Char → Bool) (text : List Char) :
    runLength test text ≤ text.length :=
  (List.takeWhile_sublist test).length_le

/-- A row can be asked for up to the end, and is as long as among the characters from there on. -/
theorem runLengthAt?_add (test : Char → Bool) {n : Nat} (h : place + n ≤ bytes.length) :
    runLengthAt? test bytes (place + n) =
      some (runLength test (((bytes.map Char.ofUInt8).drop place).drop n)) := by
  rw [runLengthAt?, if_pos h, runLength, List.drop_drop, ← List.map_drop, List.takeWhile_map,
    List.length_map]
  rfl

theorem acronymLengthAt?_runLength (bytes : List UInt8) (place : Nat) :
    acronymLengthAt? bytes place (runLength Char.isUpper ((bytes.map Char.ofUInt8).drop place)) =
      acronymLength? ((bytes.map Char.ofUInt8).drop place) := by
  unfold acronymLengthAt? acronymLength?
  dsimp only
  rw [List.head?_drop, List.getElem?_drop, List.getElem?_map]
  cases bytes[place + runLength Char.isUpper ((bytes.map Char.ofUInt8).drop place)]? <;> rfl

theorem acronymLength?_pos {n : Nat} (h : acronymLength? text = some n) : 0 < n := by
  unfold acronymLength? at h
  dsimp only at h
  split_ifs at h
  split at h
  · cases h
    omega
  · split_ifs at h <;> cases h <;> omega

/-- **At any place among any bytes a word can be looked for**, and none is empty. -/
theorem wordLengthAt?_eq (h : place ≤ bytes.length) :
    wordLengthAt? bytes place =
      let n := wordLength ((bytes.map Char.ofUInt8).drop place)
      some (if 0 < n then some n else none) := by
  have hlength : ((bytes.map Char.ofUInt8).drop place).length = bytes.length - place := by
    rw [List.length_drop, List.length_map]
  have hacronym := acronymLengthAt?_runLength bytes place
  have hrun {n : Nat} (test : Char → Bool) (hn : place + n ≤ bytes.length) :=
    runLengthAt?_add test hn
  generalize (bytes.map Char.ofUInt8).drop place = text at *
  have hhere (test : Char → Bool) : runLengthAt? test bytes place = some (runLength test text) :=
    hrun (n := 0) test h
  unfold wordLengthAt? wordLength
  rw [hhere, hhere, Option.bind_eq_bind, Option.bind_some, hacronym]
  cases ha : acronymLength? text with
  | some n =>
    dsimp only
    rw [if_pos (acronymLength?_pos ha)]
    rfl
  | none =>
    have hupper := runLength_le_length Char.isUpper text
    dsimp only
    generalize hhead : min 1 (runLength Char.isUpper text) = head
    have hlower := runLength_le_length Char.isLower (text.drop head)
    rw [List.length_drop] at hlower
    rw [hrun Char.isLower (by omega), Option.bind_some, Nat.add_assoc,
      hrun Char.isDigit (by omega)]
    by_cases hsmall : 0 < runLength Char.isLower (text.drop head)
    · rw [if_pos hsmall, if_pos hsmall, if_pos (by omega)]
      rfl
    · rw [if_neg hsmall, if_neg hsmall]
      by_cases hcapital : 0 < head
      · rw [if_pos hcapital, if_pos hcapital]
        rfl
      · rw [if_neg hcapital, if_neg hcapital]
        rfl

end Place

/-! ## One round -/

theorem wordSliceAt?_of_not_alphanum (hc : c.isAlphanum = false)
    (h : (octets s.toList).drop place = c :: rest) :
    wordSliceAt? s place = some (none, place + 1) := by
  have hplace := lt_length_of_drop (List.cons_ne_nil c rest) h
  rw [wordSliceAt?, wordLengthAt?_eq hplace.le, map_bytes, h, wordLength_eq_zero hc]
  rfl

theorem exists_wordSliceAt?_of_firstWord (hfirst : FirstWord word rest)
    (h : (octets s.toList).drop place = word ++ rest) :
    ∃ slice, wordSliceAt? s place = some (some slice, place + word.length) ∧
      Spans slice s place (place + word.length) ∧ slice.copy.toList = word := by
  have hplace := lt_length_of_drop (List.append_ne_nil_of_left_ne_nil hfirst.ne_nil rest) h
  have hpositive : 0 < word.length := List.length_pos_iff.2 hfirst.ne_nil
  obtain ⟨slice, hslice, hspans⟩ :=
    exists_slice?_of_ascii ascii_isAlphanum hfirst.ne_nil hfirst.isWord.isAlphanum h
  refine ⟨slice, ?_, hspans⟩
  rw [wordSliceAt?, wordLengthAt?_eq hplace.le, map_bytes, h, hfirst.wordLength]
  dsimp only
  rw [if_pos hpositive, Option.bind_eq_bind, Option.bind_some]
  dsimp only
  rw [hslice]
  rfl

/-! ## All rounds -/

/-- Slices of a text from a place on, one behind the other, that hold the words of a row of
octets. -/
structure InPlace (s : String) (place : Nat) (text : List Char) (slices : List String.Slice) :
    Prop where
  texts : slices.map (·.copy.toList) = words text
  str : ∀ slice ∈ slices, slice.str = s
  behind : ∀ slice ∈ slices, place ≤ slice.startInclusive.offset.byteIdx
  ordered : slices.Pairwise fun a b => a.endExclusive.offset ≤ b.startInclusive.offset

theorem InPlace.nil (s : String) (place : Nat) : InPlace s place [] [] where
  texts := words_nil.symm
  str := nofun
  behind := nofun
  ordered := .nil

theorem InPlace.skip (hc : c.isAlphanum = false) (h : InPlace s (place + 1) rest slices) :
    InPlace s place (c :: rest) slices where
  texts := by rw [words_cons_of_not_alphanum hc, h.texts]
  str := h.str
  behind slice hslice := Nat.le_of_succ_le (h.behind slice hslice)
  ordered := h.ordered

theorem InPlace.cons (hfirst : FirstWord word rest)
    (hspans : Spans slice s place (place + word.length)) (hword : slice.copy.toList = word)
    (h : InPlace s (place + word.length) rest slices) :
    InPlace s place (word ++ rest) (slice :: slices) where
  texts := by rw [hfirst.words, List.map_cons, hword, h.texts]
  str := List.forall_mem_cons.2 ⟨hspans.str, h.str⟩
  behind := List.forall_mem_cons.2 ⟨hspans.start.ge, fun next hnext =>
    (Nat.le_add_right _ _).trans (h.behind next hnext)⟩
  ordered := .cons (fun next hnext => String.Pos.Raw.le_iff.2 (hspans.stop ▸ h.behind next hnext))
    h.ordered

theorem wordSlicesWithin_of_round {rounds next : Nat} {word? : Option String.Slice}
    (hplace : place < (bytes s).length) (hround : wordSliceAt? s place = some (word?, next))
    (hrest : wordSlicesWithin s rounds next = some slices) :
    wordSlicesWithin s (rounds + 1) place = some (word?.toList ++ slices) := by
  rw [wordSlicesWithin, if_pos hplace, hround, Option.bind_eq_bind, Option.bind_some]
  dsimp only
  rw [hrest]
  rfl

/-- A search over the octets from a place on needs no more rounds than there are octets, and finds
their words. -/
theorem exists_wordSlicesWithin (h : (octets s.toList).drop place = text) :
    ∃ slices, (∀ n, wordSlicesWithin s (text.length + n) place = some slices) ∧
      InPlace s place text slices := by
  induction text using words_induction generalizing place with
  | nil =>
    have hplace : ¬ place < (bytes s).length := by
      rw [← length_octets]
      exact Nat.not_lt.2 (List.drop_eq_nil_iff.1 h)
    refine ⟨[], fun n => ?_, .nil s place⟩
    cases n <;> exact if_neg hplace
  | skip c rest hc ih =>
    have hrest : (octets s.toList).drop (place + 1) = rest := by
      rw [← List.drop_drop, h, List.drop_one, List.tail_cons]
    obtain ⟨slices, hsearch, hslices⟩ := ih hrest
    refine ⟨slices, fun n => ?_, hslices.skip hc⟩
    rw [List.length_cons, Nat.add_right_comm]
    have hplace := lt_length_of_drop (List.cons_ne_nil c rest) h
    exact wordSlicesWithin_of_round hplace (wordSliceAt?_of_not_alphanum hc h) (hsearch n)
  | word word rest hfirst ih =>
    have hrest : (octets s.toList).drop (place + word.length) = rest := by
      rw [← List.drop_drop, h, List.drop_left]
    have hplace := lt_length_of_drop (List.append_ne_nil_of_left_ne_nil hfirst.ne_nil rest) h
    obtain ⟨slice, hround, hspans, hword⟩ := exists_wordSliceAt?_of_firstWord hfirst h
    obtain ⟨slices, hsearch, hslices⟩ := ih hrest
    have hpositive : 0 < word.length := List.length_pos_iff.2 hfirst.ne_nil
    refine ⟨slice :: slices, fun n => ?_, hslices.cons hfirst hspans hword⟩
    -- A round that finds a word saves those for its other octets.
    have hrounds : (word ++ rest).length + n = rest.length + (word.length - 1 + n) + 1 := by
      rw [List.length_append]
      omega
    rw [hrounds]
    exact wordSlicesWithin_of_round hplace hround (hsearch _)

/-- **The words of a text are found in place.** The search ends within one round for each byte, with
slices of the text that hold its words: none of them is empty, each is of the form of a word, they
stand one behind the other, and in a row they are the ASCII letters and digits of the text. -/
theorem exists_wordSlices (s : String) :
    ∃ slices : List String.Slice,
      (∀ n, wordSlicesWithin s ((bytes s).length + n) 0 = some slices) ∧
      slices.map (·.copy.toList) = words s.toList ∧
      (∀ slice ∈ slices, slice.str = s ∧ slice.isEmpty = false ∧ IsWord slice.copy.toList) ∧
      slices.Pairwise (fun a b => a.endExclusive.offset ≤ b.startInclusive.offset) ∧
      slices.flatMap (·.copy.toList) = s.toList.filter Char.isAlphanum := by
  have hwhole : (octets s.toList).drop 0 = octets s.toList := List.drop_zero
  obtain ⟨slices, hsearch, hslices⟩ := exists_wordSlicesWithin hwhole
  have htexts : slices.map (·.copy.toList) = words s.toList := by
    rw [hslices.texts, words_octets]
  refine ⟨slices, fun n => ?_, htexts, fun slice hslice => ?_, hslices.ordered, ?_⟩
  · rw [← length_octets]
    exact hsearch n
  · have hmem : slice.copy.toList ∈ words s.toList := htexts ▸ List.mem_map_of_mem hslice
    have hword : IsWord slice.copy.toList := isWord_of_mem_words hmem
    have hne : slice.copy ≠ "" := fun h => hword.ne_nil (by rw [h, String.toList_empty])
    exact ⟨hslices.str slice hslice, String.Slice.copy_ne_empty_iff.1 hne, hword⟩
  · rw [List.flatMap_def, htexts, flatten_words]

example : (wordSlicesWithin "日ABc-é2" 10 0).map (·.map (·.copy)) = some ["A", "Bc", "2"] := by
  decide

end DataSchema.Text
