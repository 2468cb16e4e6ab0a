import DataSchema.Proofs.Coerce
import DataSchema.Proofs.Format.Pattern
import DataSchema.Proofs.Regex.Language
import DataSchema.Proofs.Text.Character

/-!
# IPv4 addresses

**Theorem (`accepts_ipv4_iff`).** The accepted texts are four octets with points between them, where
an octet is one to three ASCII digits for a number up to 255 (`IsOctet`). Zeros may lead.

The expression has three ways to write an octet, which overlap. Together they are all octets: three
digits that begin with `25`, with `2`, or with `0` or `1`, and all shorter rows (`mem_octet_iff`).
-/

namespace DataSchema.StringFormat

open Regex

variable {text : List Char} {c d : Char}

/-- One to three digits that write a number up to 255. -/
structure IsOctet (text : List Char) : Prop where
  ne_nil : text ≠ []
  length_le : text.length ≤ 3
  isDigit : ∀ c ∈ text, c.isDigit = true
  value_le : decimalValue text ≤ 255

theorem mem_digit_iff : text ∈ digit.language ↔ ∃ c, c.isDigit = true ∧ [c] = text := by
  have hdigit (c : Char) : (CharSet.range '0' '9').contains c = true ↔ c.isDigit = true :=
    contains_range.trans Text.isDigit_iff.symm
  simp [digit, mem_language_chars, hdigit]

theorem isOctet_one (hc : c.isDigit = true) : IsOctet [c] := by
  refine ⟨by simp, by simp, by simpa using hc, ?_⟩
  rw [Text.isDigit_iff] at hc
  simp only [decimalValue, List.reverse_singleton, List.map_cons, List.map_nil,
    Nat.ofDigits_singleton]
  omega

theorem isOctet_two (hc : c.isDigit = true) (hd : d.isDigit = true) : IsOctet [c, d] := by
  refine ⟨by simp, by simp, by simp [hc, hd], ?_⟩
  rw [Text.isDigit_iff] at hc hd
  simp [decimalValue, Nat.ofDigits_cons]
  omega

theorem isOctet_three_iff {e : Char} :
    IsOctet [c, d, e] ↔ c.isDigit = true ∧ d.isDigit = true ∧ e.isDigit = true ∧
      100 * (c.toNat - 48) + 10 * (d.toNat - 48) + (e.toNat - 48) ≤ 255 := by
  have hvalue : decimalValue [c, d, e] =
      100 * (c.toNat - 48) + 10 * (d.toNat - 48) + (e.toNat - 48) := by
    simp [decimalValue, Nat.ofDigits_cons]
    omega
  constructor
  · rintro ⟨-, -, hdigit, hle⟩
    exact ⟨hdigit c (by simp), hdigit d (by simp), hdigit e (by simp), hvalue ▸ hle⟩
  · rintro ⟨hc, hd, he, hle⟩
    exact ⟨by simp, by simp, by simp [hc, hd, he], hvalue.symm ▸ hle⟩

/-- The ways in which the expression writes an octet. -/
theorem mem_octet_iff_forms :
    text ∈ octet.language ↔
      (∃ e, (48 ≤ e.toNat ∧ e.toNat ≤ 53) ∧ ['2', '5', e] = text) ∨
      (∃ d, (48 ≤ d.toNat ∧ d.toNat ≤ 52) ∧ ∃ e, e.isDigit = true ∧ ['2', d, e] = text) ∨
      (∃ d, d.isDigit = true ∧ ([d] = text ∨ ∃ e, e.isDigit = true ∧ [d, e] = text)) ∨
      ∃ c, (c = '0' ∨ c = '1') ∧ ∃ rest,
        (∃ d, d.isDigit = true ∧ ([d] = rest ∨ ∃ e, e.isDigit = true ∧ [d, e] = rest)) ∧
          c :: rest = text := by
  simp [octet, octetForms, mem_language_group, altAll, concatAll, mem_language_alt,
    mem_language_concat, mem_language_char, mem_language_opt, mem_language_chars, contains_range,
    CharSet.contains_anyOf, contains_single, mem_digit_iff]

theorem mem_octet_iff : text ∈ octet.language ↔ IsOctet text := by
  rw [mem_octet_iff_forms]
  constructor
  · rintro (⟨e, he, rfl⟩ | ⟨d, hd, e, he, rfl⟩ | ⟨d, hd, rfl | ⟨e, he, rfl⟩⟩ |
      ⟨c, hc, _, ⟨d, hd, rfl | ⟨e, he, rfl⟩⟩, rfl⟩)
    · refine isOctet_three_iff.2 ⟨rfl, rfl, Text.isDigit_iff.2 (by omega), ?_⟩
      simp only [Char.reduceToNat]
      omega
    · refine isOctet_three_iff.2 ⟨rfl, Text.isDigit_iff.2 (by omega), he, ?_⟩
      rw [Text.isDigit_iff] at he
      simp only [Char.reduceToNat]
      omega
    · exact isOctet_one hd
    · exact isOctet_two hd he
    · exact isOctet_two (by rcases hc with rfl | rfl <;> rfl) hd
    · refine isOctet_three_iff.2 ⟨by rcases hc with rfl | rfl <;> rfl, hd, he, ?_⟩
      rw [Text.isDigit_iff] at hd he
      rcases hc with rfl | rfl <;> simp only [Char.reduceToNat] <;> omega
  · intro h
    rcases text with _ | ⟨c, _ | ⟨d, _ | ⟨e, _ | ⟨f, rest⟩⟩⟩⟩
    · exact absurd rfl h.ne_nil
    · exact .inr (.inr (.inl ⟨c, h.isDigit c (by simp), .inl rfl⟩))
    · exact .inr (.inr (.inl ⟨c, h.isDigit c (by simp), .inr ⟨d, h.isDigit d (by simp), rfl⟩⟩))
    · obtain ⟨hc, hd, he, hle⟩ := isOctet_three_iff.1 h
      have hc' := Text.isDigit_iff.1 hc
      have hd' := Text.isDigit_iff.1 hd
      have he' := Text.isDigit_iff.1 he
      -- The first digit is at most 2, and if it is 2 the second one is at most 5.
      by_cases hsmall : c = '0' ∨ c = '1'
      · exact .inr (.inr (.inr ⟨c, hsmall, [d, e], ⟨d, hd, .inr ⟨e, he, rfl⟩⟩, rfl⟩))
      · have hne : c.toNat ≠ 48 ∧ c.toNat ≠ 49 := by
          simpa only [← Char.toNat_inj, Char.reduceToNat, not_or] using hsmall
        obtain rfl : c = '2' := Char.toNat_inj.1 (show c.toNat = 50 by omega)
        simp only [Char.reduceToNat] at hle
        by_cases hfour : d.toNat ≤ 52
        · exact .inr (.inl ⟨d, ⟨hd'.1, hfour⟩, e, he, rfl⟩)
        · obtain rfl : d = '5' := Char.toNat_inj.1 (show d.toNat = 53 by omega)
          simp only [Char.reduceToNat] at hle
          exact .inl ⟨e, ⟨he'.1, by omega⟩, rfl⟩
    · have hlength := h.length_le
      simp only [List.length_cons] at hlength
      omega

theorem lookFree_ipv4 :
    (concatAll [times (.group (.concat octet (char '.'))) 3, octet]).lookFree = true := rfl

/-- **What is accepted as an IPv4 address.** -/
theorem accepts_ipv4_iff (text : String) :
    ipv4.accepts text = true ↔
      ∃ a b c d, IsOctet a ∧ IsOctet b ∧ IsOctet c ∧ IsOctet d ∧
        text.toList = a ++ '.' :: (b ++ '.' :: (c ++ '.' :: d)) := by
  have hpart (part : List Char) : part ∈ (Regex.group (.concat octet (char '.'))).language ↔
      ∃ a, IsOctet a ∧ a ++ ['.'] = part := by
    simp [mem_language_group, mem_language_concat, mem_octet_iff, mem_language_char]
  have hmatch : ipv4.regex.isMatch text = true ↔ _ := isMatch_whole_iff lookFree_ipv4 text
  rw [accepts_eq, hmatch]
  simp only [concatAll, mem_language_concat, mem_language_times hpart, mem_octet_iff]
  constructor
  · rintro ⟨_, ⟨octets, hlength, hoctets, rfl⟩, d, hd, htext⟩
    obtain ⟨a, b, c, rfl⟩ := List.length_eq_three.1 hlength
    refine ⟨a, b, c, d, hoctets a (by simp), hoctets b (by simp), hoctets c (by simp), hd, ?_⟩
    simp [← htext]
  · rintro ⟨a, b, c, d, ha, hb, hc, hd, htext⟩
    refine ⟨_, ⟨[a, b, c], rfl, by simp [ha, hb, hc], rfl⟩, d, hd, ?_⟩
    simp [htext]

end DataSchema.StringFormat
