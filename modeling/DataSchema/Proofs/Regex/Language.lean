import DataSchema.Proofs.Regex.Sweep
import Mathlib.Computability.Language

/-!
# The language of an expression

An expression without conditions on places matches a part of a text without regard to what is around
it, so it has a language (`language`), with sums, products and powers for its parts.

**Theorem (`isMatch_whole_iff`).** Such an expression that has to match a whole text is found
exactly in the texts of its language.
-/

namespace DataSchema.Regex

/-- The texts that an expression without conditions on places matches. -/
def language : Regex → Language Char
  | .empty => 1
  | .chars s => {text | ∃ c, s.contains c = true ∧ [c] = text}
  | .look _ => 0
  | .concat r s => r.language * s.language
  | .alt r s => r.language + s.language
  | .rep r least most => {text | ∃ n, Allows least most n ∧ text ∈ r.language ^ n}
  | .group r => r.language

/-- Whether an expression has no conditions on places. -/
def lookFree : Regex → Bool
  | .empty => true
  | .chars _ => true
  | .look _ => false
  | .concat r s => r.lookFree && s.lookFree
  | .alt r s => r.lookFree && s.lookFree
  | .rep r _ _ => r.lookFree
  | .group r => r.lookFree

theorem mem_language_chars {set : CharSet} {text : List Char} :
    text ∈ (Regex.chars set).language ↔ ∃ c, set.contains c = true ∧ [c] = text := Iff.rfl

theorem mem_language_concat {r s : Regex} {text : List Char} :
    text ∈ (Regex.concat r s).language ↔ ∃ u ∈ r.language, ∃ v ∈ s.language, u ++ v = text :=
  Language.mem_mul

theorem mem_language_concatAll_cons {r : Regex} {rs : List Regex} {text : List Char} :
    text ∈ (concatAll (r :: rs)).language ↔
      ∃ u ∈ r.language, ∃ v ∈ (concatAll rs).language, u ++ v = text := by
  cases rs with
  | nil => simp [concatAll, language, Language.mem_one]
  | cons s rs => exact mem_language_concat

theorem mem_language_alt {r s : Regex} {text : List Char} :
    text ∈ (Regex.alt r s).language ↔ text ∈ r.language ∨ text ∈ s.language := Iff.rfl

theorem mem_language_group {r : Regex} {text : List Char} :
    text ∈ (Regex.group r).language ↔ text ∈ r.language := Iff.rfl

theorem mem_language_altAll {rs : List Regex} {text : List Char} :
    text ∈ (altAll rs).language ↔ ∃ r ∈ rs, text ∈ r.language := by
  induction rs with
  | nil => simp [altAll, mem_language_chars, CharSet.none, CharSet.contains, Unicode.Table.contains]
  | cons r rs ih =>
    cases rs with
    | nil => simp [altAll]
    | cons s rs =>
      rw [altAll, mem_language_alt, ih]
      · simp
      · exact List.cons_ne_nil s rs

/-- A repetition matches so many parts in a row as its bounds allow; `f` says how the parts are
written. -/
theorem mem_language_rep {α : Type} {P : α → Prop} {f : α → List Char} {r : Regex}
    (h : ∀ part, part ∈ r.language ↔ ∃ a, P a ∧ f a = part) {least : Nat} {most : Option Nat}
    {text : List Char} :
    text ∈ (Regex.rep r least most).language ↔
      ∃ as : List α, Allows least most as.length ∧ (∀ a ∈ as, P a) ∧ as.flatMap f = text := by
  have hpow (n : Nat) (text : List Char) : text ∈ r.language ^ n ↔
      ∃ as : List α, as.length = n ∧ (∀ a ∈ as, P a) ∧ as.flatMap f = text := by
    induction n generalizing text with
    | zero =>
      rw [pow_zero, Language.mem_one]
      constructor
      · rintro rfl
        exact ⟨[], rfl, nofun, rfl⟩
      · rintro ⟨as, hlength, -, rfl⟩
        rw [List.length_eq_zero_iff.1 hlength, List.flatMap_nil]
    | succ n ih =>
      rw [pow_succ', Language.mem_mul]
      constructor
      · rintro ⟨part, hpart, rest, hrest, rfl⟩
        obtain ⟨a, ha, rfl⟩ := (h part).1 hpart
        obtain ⟨as, rfl, has, rfl⟩ := (ih rest).1 hrest
        exact ⟨a :: as, rfl, List.forall_mem_cons.2 ⟨ha, has⟩, rfl⟩
      · rintro ⟨_ | ⟨a, as⟩, hlength, has, rfl⟩
        · cases hlength
        · obtain ⟨ha, has⟩ := List.forall_mem_cons.1 has
          exact ⟨f a, (h _).2 ⟨a, ha, rfl⟩, as.flatMap f,
            (ih _).2 ⟨as, Nat.succ.inj hlength, has, rfl⟩, rfl⟩
  constructor
  · rintro ⟨n, hn, htext⟩
    obtain ⟨as, rfl, has⟩ := (hpow n text).1 htext
    exact ⟨as, hn, has⟩
  · rintro ⟨as, hn, has⟩
    exact ⟨as.length, hn, (hpow _ text).2 ⟨as, rfl, has⟩⟩

/-! ## Building blocks -/

theorem contains_range {first last c : Char} :
    (CharSet.range first last).contains c = true ↔
      first.toNat ≤ c.toNat ∧ c.toNat ≤ last.toNat := by
  simp [CharSet.range, CharSet.contains, Unicode.Table.contains]

theorem contains_single {c d : Char} : (CharSet.single c).contains d = true ↔ d = c := by
  simp only [CharSet.single, CharSet.contains, Unicode.Table.contains, List.any_cons,
    List.any_nil, Bool.or_false, Bool.and_eq_true, decide_eq_true_eq, ← Char.toNat_inj]
  omega

theorem mem_language_char {c : Char} {text : List Char} :
    text ∈ (char c).language ↔ text = [c] := by
  simp only [char, mem_language_chars, contains_single, exists_eq_left]
  exact eq_comm

theorem mem_language_opt {r : Regex} {text : List Char} :
    text ∈ (opt r).language ↔ text = [] ∨ text ∈ r.language := by
  rw [opt, mem_language_rep (f := fun part => part) (P := fun part => part ∈ r.language) (by simp)]
  constructor
  · rintro ⟨parts, hlength, hparts, rfl⟩
    have hle := hlength.2 1 rfl
    rcases parts with _ | ⟨part, _ | ⟨next, parts⟩⟩
    · exact .inl rfl
    · simpa using Or.inr hparts
    · simp at hle
  · rintro (rfl | htext)
    · exact ⟨[], ⟨Nat.zero_le _, fun m _ => Nat.zero_le _⟩, nofun, rfl⟩
    · exact ⟨[text], ⟨Nat.zero_le _, by simp⟩, by simpa using htext, by simp⟩

theorem mem_language_times {α : Type} {P : α → Prop} {f : α → List Char} {r : Regex}
    (h : ∀ part, part ∈ r.language ↔ ∃ a, P a ∧ f a = part) {n : Nat} {text : List Char} :
    text ∈ (times r n).language ↔
      ∃ as : List α, as.length = n ∧ (∀ a ∈ as, P a) ∧ as.flatMap f = text := by
  have hallows (m : Nat) : Allows n (some n) m ↔ m = n := by
    simp only [Allows, Option.mem_def, Option.some.injEq, forall_eq', Nat.max_self]
    omega
  simp only [times, mem_language_rep h, hallows]

/-- A row of characters of a set. -/
theorem mem_language_row {set : CharSet} {least most : Nat} (hle : least ≤ most)
    {text : List Char} :
    text ∈ (Regex.rep (.chars set) least (some most)).language ↔
      (least ≤ text.length ∧ text.length ≤ most) ∧ ∀ c ∈ text, set.contains c = true := by
  have hrow (row : List Char) : row.flatMap (fun c => [c]) = row := by simp
  rw [mem_language_rep (f := fun c => [c]) fun part => mem_language_chars]
  simp only [Allows, hrow, Option.mem_def, Option.some.injEq, forall_eq', Nat.max_eq_right hle]
  constructor
  · rintro ⟨row, hlength, hset, rfl⟩
    exact ⟨hlength, hset⟩
  · rintro ⟨hlength, hset⟩
    exact ⟨text, hlength, hset, rfl⟩

/-! ## Relations between places that a language describes -/

/-- A relation between the places of a text, given for each text, holds of two places exactly if
what is between them is in a language. -/
structure Denotes (R : List Char → Nat → Nat → Prop) (L : Language Char) : Prop where
  forward : ∀ text, Forward text.length (R text)
  iff_mem : ∀ before part after,
    R (before ++ (part ++ after)) before.length (before.length + part.length) ↔ part ∈ L

variable {R S : List Char → Nat → Nat → Prop} {L K : Language Char} {r s : Regex}

theorem denotes_one : Denotes (fun _ i j => i = j) 1 := by
  refine ⟨fun text i j hi h => h ▸ ⟨Nat.le_refl i, hi⟩, fun before part after => ?_⟩
  rw [Language.mem_one, ← List.length_eq_zero_iff]
  omega

theorem Denotes.mul (hR : Denotes R L) (hS : Denotes S K) :
    Denotes (fun text i j => ∃ k, R text i k ∧ S text k j) (L * K) := by
  refine ⟨fun text i j hi h => ?_, fun before part after => ?_⟩
  · obtain ⟨k, hk, hj⟩ := h
    have hik := hR.forward text hi hk
    have hkj := hS.forward text hik.2 hj
    exact ⟨Nat.le_trans hik.1 hkj.1, hkj.2⟩
  · rw [Language.mem_mul]
    constructor
    · rintro ⟨k, hk, hj⟩
      have hbefore : before.length ≤ (before ++ (part ++ after)).length := by simp
      have hik := hR.forward _ hbefore hk
      have hkj := hS.forward _ hik.2 hj
      -- The place between the two matches cuts the part in two.
      obtain ⟨n, rfl⟩ := Nat.exists_eq_add_of_le hik.1
      have hpart : part.take n ++ part.drop n = part := List.take_append_drop n part
      have htake : (part.take n).length = n := List.length_take_of_le (by omega)
      refine ⟨part.take n, ?_, part.drop n, ?_, hpart⟩
      · rw [← hR.iff_mem before (part.take n) (part.drop n ++ after), htake,
          ← List.append_assoc (part.take n), hpart]
        exact hk
      · rw [← hS.iff_mem (before ++ part.take n) (part.drop n) after, List.append_assoc,
          ← List.append_assoc (part.take n), hpart, List.length_append, htake, List.length_drop,
          show before.length + n + (part.length - n) = before.length + part.length by omega]
        exact hj
    · rintro ⟨u, hu, v, hv, rfl⟩
      refine ⟨before.length + u.length, ?_, ?_⟩
      · rw [List.append_assoc]
        exact (hR.iff_mem before u (v ++ after)).2 hu
      · rw [List.append_assoc, ← List.append_assoc, List.length_append, ← Nat.add_assoc,
          ← List.length_append]
        exact (hS.iff_mem (before ++ u) v after).2 hv

theorem Denotes.pow (hR : Denotes R L) (n : Nat) :
    Denotes (fun text => Steps (R text) n) (L ^ n) := by
  induction n with
  | zero =>
    rw [pow_zero]
    exact denotes_one
  | succ n ih =>
    rw [pow_succ']
    exact hR.mul ih

/-- An expression without conditions matches what is in its language. -/
theorem denotes_language (h : r.lookFree = true) :
    Denotes (fun text => Matches text r) r.language := by
  induction r with
  | empty => exact denotes_one
  | chars s =>
    refine ⟨fun text => forward_matches text _, fun before part after => ?_⟩
    simp only [Matches, language, Nat.add_left_cancel_iff, List.length_eq_one_iff]
    constructor
    · rintro ⟨⟨c, hc, hs⟩, d, rfl⟩
      obtain rfl : d = c := by simpa using hc
      exact ⟨d, hs, rfl⟩
    · rintro ⟨c, hs, rfl⟩
      exact ⟨⟨c, by simp, hs⟩, c, rfl⟩
  | look l => cases h
  | concat r s hr hs =>
    rw [lookFree, Bool.and_eq_true] at h
    exact (hr h.1).mul (hs h.2)
  | alt r s hr hs =>
    rw [lookFree, Bool.and_eq_true] at h
    refine ⟨fun text => forward_matches text _, fun before part after => ?_⟩
    exact or_congr ((hr h.1).iff_mem before part after) ((hs h.2).iff_mem before part after)
  | rep r least most hr =>
    refine ⟨fun text => forward_matches text _, fun before part after => exists_congr fun n => ?_⟩
    exact and_congr_right fun _ => ((hr h).pow n).iff_mem before part after
  | group r hr => exact hr h

theorem matches_concatAll_cons (text : List Char) (r : Regex) (rs : List Regex) (i j : Nat) :
    Matches text (concatAll (r :: rs)) i j ↔
      ∃ k, Matches text r i k ∧ Matches text (concatAll rs) k j := by
  cases rs with
  | nil => simp [concatAll, Matches]
  | cons s rs => exact Iff.rfl

theorem matches_concatAll_append (text : List Char) (rs ss : List Regex) (i j : Nat) :
    Matches text (concatAll (rs ++ ss)) i j ↔
      ∃ k, Matches text (concatAll rs) i k ∧ Matches text (concatAll ss) k j := by
  induction rs generalizing i with
  | nil => simp [concatAll, Matches]
  | cons r rs ih =>
    simp only [List.cons_append, matches_concatAll_cons, ih]
    constructor
    · rintro ⟨k, hr, l, hrs, hss⟩
      exact ⟨l, ⟨k, hr, hrs⟩, hss⟩
    · rintro ⟨l, ⟨k, hr, hrs⟩, hss⟩
      exact ⟨k, hr, l, hrs, hss⟩

/-- Expressions that have to match from the start to the end do so from the first place to the
last. -/
theorem isMatch_whole (rs : List Regex) (text : String) :
    (whole rs).isMatch text = true ↔ Matches text.toList (concatAll rs) 0 text.toList.length := by
  rw [isMatch_iff]
  simp only [whole, matches_concatAll_cons, matches_concatAll_append]
  constructor
  · rintro ⟨i, j, hi, k, ⟨hstart, rfl⟩, l, hr, _, ⟨hend, rfl⟩, rfl⟩
    have hfirst : i = 0 := by
      have hbefore : text.toList.take i = [] := by
        rwa [Look.holds, Option.isNone_iff_eq_none, List.getLast?_eq_none_iff] at hstart
      rw [← List.length_take_of_le hi, hbefore, List.length_nil]
    have hlast := (forward_matches text.toList (concatAll rs) hi hr).2
    have hend : text.toList.length ≤ l := by simpa [Look.holds] using hend
    obtain rfl : l = text.toList.length := by omega
    rwa [hfirst] at hr
  · intro hr
    have hend : Look.textEnd.holds (text.toList.take text.toList.length).getLast?
        text.toList[text.toList.length]? = true := by
      simp [Look.holds]
    exact ⟨0, _, Nat.zero_le _, 0, ⟨rfl, rfl⟩, _, hr, _, ⟨hend, rfl⟩, rfl⟩

/-- **A whole text matches** expressions without conditions exactly if it is in the language of the
row. -/
theorem isMatch_whole_iff {rs : List Regex} (h : (concatAll rs).lookFree = true) (text : String) :
    (whole rs).isMatch text = true ↔ text.toList ∈ (concatAll rs).language := by
  have hmem := (denotes_language h).iff_mem [] text.toList []
  rw [List.append_nil, List.nil_append, List.length_nil, Nat.zero_add] at hmem
  rw [isMatch_whole]
  exact hmem

end DataSchema.Regex
