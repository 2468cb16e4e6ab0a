import DataSchema.Proofs.Format.Pattern
import DataSchema.Proofs.Regex.Language
import DataSchema.Proofs.Text.Character

/-!
# IPv6 addresses

**Theorem (`accepts_ipv6_iff`).** Of the texts without point and percent sign those are accepted
that are eight groups with colons between them, or two rows of at most seven groups together with
two colons between the rows (`IsIpv6`).

Nine of the twelve forms write groups and colons only. With `a` groups before the two colons and `b`
behind them, the number `a` tells a form that takes all `b` up to `7 - a` (`exists_form_of_rows`);
empty rows have forms of their own (`exists_form_of_isIpv6`). The other three forms have a point or
a percent sign in every text (`Has`).
-/

namespace DataSchema.StringFormat

open Regex

variable {text : List Char} {gs before after : List (List Char)} {r s : Regex} {c : Char}

/-! ## Addresses -/

def isHexDigit (c : Char) : Bool :=
  c.isDigit || ('a' ≤ c && c ≤ 'f') || ('A' ≤ c && c ≤ 'F')

/-- One to four hexadecimal digits. -/
structure IsGroup (text : List Char) : Prop where
  length_pos : 1 ≤ text.length
  length_le : text.length ≤ 4
  hex : ∀ c ∈ text, isHexDigit c = true

instance (text : List Char) : Decidable (IsGroup text) :=
  decidable_of_iff (1 ≤ text.length ∧ text.length ≤ 4 ∧ text.all isHexDigit = true)
    ⟨fun h => ⟨h.1, h.2.1, List.all_eq_true.1 h.2.2⟩,
      fun h => ⟨h.length_pos, h.length_le, List.all_eq_true.2 h.hex⟩⟩

/-- Groups with colons between them. -/
def joined (groups : List (List Char)) : List Char := [':'].intercalate groups

/-- The text of an address in hexadecimal: eight groups, or fewer with two colons for the missing
ones. -/
inductive IsIpv6 : List Char → Prop
  | full {groups : List (List Char)} (h : ∀ g ∈ groups, IsGroup g) (eight : groups.length = 8) :
      IsIpv6 (joined groups)
  | shortened {before after : List (List Char)} (hbefore : ∀ g ∈ before, IsGroup g)
      (hafter : ∀ g ∈ after, IsGroup g) (room : before.length + after.length ≤ 7) :
      IsIpv6 (joined before ++ ':' :: ':' :: joined after)

/-! ## Groups and colons -/

theorem mem_group_iff : text ∈ group.language ↔ IsGroup text := by
  have hhex (c : Char) :
      (CharSet.anyOf [.range '0' '9', .range 'a' 'f', .range 'A' 'F']).contains c = true ↔
        isHexDigit c = true := by
    simp only [CharSet.contains_anyOf, List.any_cons, List.any_nil, Bool.or_false, Bool.or_eq_true,
      contains_range, isHexDigit, Text.isDigit_iff, Bool.and_eq_true, decide_eq_true_eq,
      Char.le_def, UInt32.le_iff_toNat_le, Char.toNat_val, Char.reduceToNat]
    tauto
  rw [group, hexDigit, mem_language_row (by decide)]
  simp only [hhex]
  exact ⟨fun h => ⟨h.1.1, h.1.2, h.2⟩, fun h => ⟨⟨h.length_pos, h.length_le⟩, h.hex⟩⟩

/-- Groups, each with a colon behind it. -/
def trailed (groups : List (List Char)) : List Char := groups.flatMap (· ++ [':'])

/-- Groups, each with a colon before it. -/
def led (groups : List (List Char)) : List Char := groups.flatMap (':' :: ·)

theorem joined_cons (g : List Char) (gs : List (List Char)) : joined (g :: gs) = g ++ led gs := by
  induction gs generalizing g with
  | nil => simp [joined, led]
  | cons h gs ih =>
    rw [joined, List.intercalate_cons_cons, ← joined, ih]
    simp [led]

theorem led_cons (g : List Char) (gs : List (List Char)) :
    led (g :: gs) = ':' :: joined (g :: gs) := by
  rw [joined_cons]
  rfl

theorem trailed_cons (g : List Char) (gs : List (List Char)) :
    trailed (g :: gs) = joined (g :: gs) ++ [':'] := by
  induction gs generalizing g with
  | nil => simp [joined, trailed]
  | cons h gs ih =>
    rw [trailed, List.flatMap_cons, ← trailed, ih, joined, joined, List.intercalate_cons_cons]
    simp

theorem trailed_append (gs : List (List Char)) (g : List Char) :
    trailed gs ++ g = joined (gs ++ [g]) := by
  cases gs with
  | nil => simp [trailed, joined]
  | cons h gs => rw [trailed_cons, List.cons_append, joined_cons, joined_cons]; simp [led]

theorem mem_groupsBefore_iff {least most : Nat} (hle : least ≤ most) :
    text ∈ (groupsBefore least most).language ↔
      ∃ gs : List (List Char), (least ≤ gs.length ∧ gs.length ≤ most) ∧ (∀ g ∈ gs, IsGroup g) ∧
        trailed gs = text := by
  have hpart (part : List Char) : part ∈ (Regex.group (.concat group (char ':'))).language ↔
      ∃ g, IsGroup g ∧ g ++ [':'] = part := by
    simp [mem_language_group, mem_language_concat, mem_group_iff, mem_language_char]
  rw [groupsBefore, mem_language_rep hpart]
  simp only [Allows, Option.mem_def, Option.some.injEq, forall_eq', Nat.max_eq_right hle, trailed]

theorem mem_groupsAfter_iff {least most : Nat} (hle : least ≤ most) :
    text ∈ (groupsAfter least most).language ↔
      ∃ gs : List (List Char), (least ≤ gs.length ∧ gs.length ≤ most) ∧ (∀ g ∈ gs, IsGroup g) ∧
        led gs = text := by
  have hpart (part : List Char) : part ∈ (Regex.group (.concat (char ':') group)).language ↔
      ∃ g, IsGroup g ∧ ':' :: g = part := by
    simp [mem_language_group, mem_language_concat, mem_group_iff, mem_language_char]
  rw [groupsAfter, mem_language_rep hpart]
  simp only [Allows, Option.mem_def, Option.some.injEq, forall_eq', Nat.max_eq_right hle, led]

/-- Two rows of groups that are not empty, and two colons between them. -/
theorem trailed_append_led (hbefore : 1 ≤ before.length) (hafter : 1 ≤ after.length) :
    trailed before ++ led after = joined before ++ ':' :: ':' :: joined after := by
  obtain ⟨g, gs, rfl⟩ := List.exists_cons_of_length_pos hbefore
  obtain ⟨h, hs, rfl⟩ := List.exists_cons_of_length_pos hafter
  rw [trailed_cons, led_cons, List.append_assoc, List.singleton_append]

/-- The form that has as many groups as there is room for behind the two colons. -/
theorem mem_shortened_iff {most : Nat} (hleast : 1 ≤ most) (hmost : most ≤ 6) :
    text ∈ (shortened most).language ↔
      ∃ before after : List (List Char),
        ((1 ≤ before.length ∧ before.length ≤ most) ∧ ∀ g ∈ before, IsGroup g) ∧
        ((1 ≤ after.length ∧ after.length ≤ 7 - most) ∧ ∀ g ∈ after, IsGroup g) ∧
        trailed before ++ led after = text := by
  rw [shortened, mem_language_concat]
  simp only [mem_groupsBefore_iff hleast, mem_groupsAfter_iff (show 1 ≤ 7 - most by omega)]
  constructor
  · rintro ⟨_, ⟨before, hlength, hbefore, rfl⟩, _, ⟨after, hlength', hafter, rfl⟩, rfl⟩
    exact ⟨before, after, ⟨hlength, hbefore⟩, ⟨hlength', hafter⟩, rfl⟩
  · rintro ⟨before, after, ⟨hlength, hbefore⟩, ⟨hlength', hafter⟩, rfl⟩
    exact ⟨_, ⟨before, hlength, hbefore, rfl⟩, _, ⟨after, hlength', hafter, rfl⟩, rfl⟩

theorem mem_eightGroups_iff :
    text ∈ (Regex.concat (groupsBefore 7 7) group).language ↔
      ∃ gs : List (List Char), gs.length = 8 ∧ (∀ g ∈ gs, IsGroup g) ∧ joined gs = text := by
  rw [mem_language_concat]
  simp only [mem_groupsBefore_iff (le_refl 7), mem_group_iff]
  constructor
  · rintro ⟨_, ⟨gs, hlength, hgs, rfl⟩, g, hg, rfl⟩
    refine ⟨gs ++ [g], by simp; omega, fun g' hg' => ?_, (trailed_append gs g).symm⟩
    rcases List.mem_append.1 hg' with hg' | hg'
    · exact hgs g' hg'
    · rwa [List.mem_singleton.1 hg']
  · rintro ⟨gs, hlength, hgs, rfl⟩
    obtain ⟨init, g, rfl⟩ := (List.eq_nil_or_concat gs).resolve_left (by rintro rfl; cases hlength)
    have hinit : init.length = 7 := by simpa using hlength
    refine ⟨_, ⟨init, by omega, fun g' hg' => hgs g' (by simp [hg']), rfl⟩, g, hgs g (by simp), ?_⟩
    rw [trailed_append, List.concat_eq_append]

/-- Groups before the two colons only. -/
theorem mem_noneBehind_iff :
    text ∈ (Regex.concat (groupsBefore 1 7) (char ':')).language ↔
      ∃ before : List (List Char), (1 ≤ before.length ∧ before.length ≤ 7) ∧
        (∀ g ∈ before, IsGroup g) ∧ trailed before ++ [':'] = text := by
  rw [mem_language_concat]
  simp only [mem_groupsBefore_iff (show 1 ≤ 7 by decide), mem_language_char]
  constructor
  · rintro ⟨_, ⟨before, hlength, hbefore, rfl⟩, _, rfl, rfl⟩
    exact ⟨before, hlength, hbefore, rfl⟩
  · rintro ⟨before, hlength, hbefore, rfl⟩
    exact ⟨_, ⟨before, hlength, hbefore, rfl⟩, _, rfl, rfl⟩

/-- One group behind the two colons. -/
theorem mem_oneBehind_iff :
    text ∈ (concatAll [groupsBefore 1 6, char ':', group]).language ↔
      ∃ (before : List (List Char)) (g : List Char), (1 ≤ before.length ∧ before.length ≤ 6) ∧
        (∀ g ∈ before, IsGroup g) ∧ IsGroup g ∧ trailed before ++ led [g] = text := by
  simp only [concatAll, mem_language_concat, mem_groupsBefore_iff (show 1 ≤ 6 by decide),
    mem_language_char, mem_group_iff]
  constructor
  · rintro ⟨_, ⟨before, hlength, hbefore, rfl⟩, _, ⟨_, rfl, g, hg, rfl⟩, rfl⟩
    exact ⟨before, g, hlength, hbefore, hg, by simp [led]⟩
  · rintro ⟨before, g, hlength, hbefore, hg, rfl⟩
    exact ⟨_, ⟨before, hlength, hbefore, rfl⟩, _, ⟨_, rfl, g, hg, rfl⟩, by simp [led]⟩

/-- One group before the two colons. -/
theorem mem_oneBefore_iff :
    text ∈ (concatAll [group, char ':', .group (groupsAfter 1 6)]).language ↔
      ∃ (g : List Char) (after : List (List Char)), (1 ≤ after.length ∧ after.length ≤ 6) ∧
        (∀ g ∈ after, IsGroup g) ∧ IsGroup g ∧ trailed [g] ++ led after = text := by
  simp only [concatAll, mem_language_concat, mem_language_group,
    mem_groupsAfter_iff (show 1 ≤ 6 by decide), mem_language_char, mem_group_iff]
  constructor
  · rintro ⟨g, hg, _, ⟨_, rfl, _, ⟨after, hlength, hafter, rfl⟩, rfl⟩, rfl⟩
    exact ⟨g, after, hlength, hafter, hg, by simp [trailed]⟩
  · rintro ⟨g, after, hlength, hafter, hg, rfl⟩
    exact ⟨g, hg, _, ⟨_, rfl, _, ⟨after, hlength, hafter, rfl⟩, rfl⟩, by simp [trailed]⟩

/-- No group before the two colons. -/
theorem mem_noneBefore_iff :
    text ∈ (Regex.concat (char ':') (.group (.alt (groupsAfter 1 7) (char ':')))).language ↔
      (∃ after : List (List Char), (1 ≤ after.length ∧ after.length ≤ 7) ∧
        (∀ g ∈ after, IsGroup g) ∧ ':' :: led after = text) ∨ [':', ':'] = text := by
  simp only [mem_language_concat, mem_language_group, mem_language_alt,
    mem_groupsAfter_iff (show 1 ≤ 7 by decide), mem_language_char]
  constructor
  · rintro ⟨_, rfl, _, ⟨after, hlength, hafter, rfl⟩ | rfl, rfl⟩
    · exact .inl ⟨after, hlength, hafter, rfl⟩
    · exact .inr rfl
  · rintro (⟨after, hlength, hafter, rfl⟩ | rfl)
    · exact ⟨_, rfl, _, .inl ⟨after, hlength, hafter, rfl⟩, rfl⟩
    · exact ⟨_, rfl, _, .inr rfl, rfl⟩

/-! ## Forms with a point or a percent sign -/

/-- Every text that an expression matches has a character. -/
def Has (c : Char) (r : Regex) : Prop := ∀ text ∈ r.language, c ∈ text

theorem has_char (c : Char) : Has c (char c) := by
  intro text h
  rw [mem_language_char.1 h]
  exact List.mem_singleton_self c

theorem Has.right (h : Has c s) (r : Regex) : Has c (.concat r s) := by
  intro text htext
  obtain ⟨u, -, v, hv, rfl⟩ := mem_language_concat.1 htext
  exact List.mem_append_right u (h v hv)

/-- One of the expressions in a row is enough. -/
theorem Has.concatAll {rs : List Regex} (h : Has c r) (hr : r ∈ rs) : Has c (concatAll rs) := by
  induction rs with
  | nil => cases hr
  | cons s rs ih =>
    intro text htext
    obtain ⟨u, hu, v, hv, rfl⟩ := mem_language_concatAll_cons.1 htext
    rcases List.mem_cons.1 hr with rfl | hr
    · exact List.mem_append_left v (h u hu)
    · exact List.mem_append_right u (ih hr v hv)

theorem Has.group (h : Has c r) : Has c (.group r) := h

theorem Has.times (h : Has c r) (n : Nat) : Has c (times r (n + 1)) := by
  intro text htext
  have hpart (part : List Char) : part ∈ r.language ↔ ∃ p, p ∈ r.language ∧ p = part := by simp
  obtain ⟨_ | ⟨part, parts⟩, hlength, hparts, rfl⟩ := (mem_language_times hpart).1 htext
  · cases hlength
  · exact List.mem_append_left _ (h part (hparts part List.mem_cons_self))

theorem has_embeddedOctets :
    Has '.' (Regex.times (.group (.concat embeddedOctet (char '.'))) 3) :=
  ((has_char '.').right embeddedOctet).group.times 2

/-! ## All forms -/

theorem isIpv6_of_rows (hbefore : ∀ g ∈ before, IsGroup g) (hafter : ∀ g ∈ after, IsGroup g)
    (hpos : 1 ≤ before.length) (hpos' : 1 ≤ after.length)
    (room : before.length + after.length ≤ 7) : IsIpv6 (trailed before ++ led after) := by
  rw [trailed_append_led hpos hpos']
  exact .shortened hbefore hafter room

theorem isIpv6_of_mem_shortened {most : Nat} (hleast : 1 ≤ most) (hmost : most ≤ 6)
    (h : text ∈ (shortened most).language) : IsIpv6 text := by
  obtain ⟨before, after, ⟨hlength, hbefore⟩, ⟨hlength', hafter⟩, rfl⟩ :=
    (mem_shortened_iff hleast hmost).1 h
  exact isIpv6_of_rows hbefore hafter hlength.1 hlength'.1 (by omega)

/-- What a form matches is an address if it has no point and no percent sign. -/
theorem isIpv6_of_mem_form (hpoint : '.' ∉ text) (hpercent : '%' ∉ text) (hr : r ∈ ipv6Forms)
    (h : text ∈ r.language) : IsIpv6 text := by
  simp only [ipv6Forms, List.mem_cons, List.not_mem_nil, or_false] at hr
  rcases hr with rfl | rfl | rfl | rfl | rfl | rfl | rfl | rfl | rfl | rfl | rfl | rfl
  · obtain ⟨gs, hlength, hgs, rfl⟩ := mem_eightGroups_iff.1 h
    exact .full hgs hlength
  · obtain ⟨before, hlength, hbefore, rfl⟩ := mem_noneBehind_iff.1 h
    obtain ⟨g, gs, rfl⟩ := List.exists_cons_of_length_pos hlength.1
    rw [trailed_cons, List.append_assoc]
    exact @IsIpv6.shortened _ [] hbefore nofun hlength.2
  · obtain ⟨before, g, hlength, hbefore, hg, rfl⟩ := mem_oneBehind_iff.1 h
    exact isIpv6_of_rows hbefore (by simpa using hg) hlength.1 le_rfl (Nat.succ_le_succ hlength.2)
  · exact isIpv6_of_mem_shortened (by decide) (by decide) h
  · exact isIpv6_of_mem_shortened (by decide) (by decide) h
  · exact isIpv6_of_mem_shortened (by decide) (by decide) h
  · exact isIpv6_of_mem_shortened (by decide) (by decide) h
  · obtain ⟨g, after, hlength, hafter, hg, rfl⟩ := mem_oneBefore_iff.1 h
    exact isIpv6_of_rows (by simpa using hg) hafter le_rfl hlength.1 (by simp; omega)
  · rcases mem_noneBefore_iff.1 h with ⟨after, hlength, hafter, rfl⟩ | rfl
    · obtain ⟨g, gs, rfl⟩ := List.exists_cons_of_length_pos hlength.1
      rw [led_cons]
      exact @IsIpv6.shortened [] _ nofun hafter (by simpa using hlength.2)
    · exact @IsIpv6.shortened [] [] nofun nofun (by decide)
  · exact absurd ((has_char '%').concatAll (by simp [linkLocal]) text h) hpercent
  · exact absurd (has_embeddedOctets.concatAll (by simp [embeddedIpv4]) text h) hpoint
  · exact absurd (has_embeddedOctets.concatAll (by simp [embeddedIpv4]) text h) hpoint

/-- Groups on both sides of the two colons: the number of groups before them tells the form. -/
theorem exists_form_of_rows (hbefore : ∀ g ∈ before, IsGroup g) (hafter : ∀ g ∈ after, IsGroup g)
    (hpos : 1 ≤ before.length) (hpos' : 1 ≤ after.length)
    (room : before.length + after.length ≤ 7) :
    ∃ r ∈ ipv6Forms, trailed before ++ led after ∈ r.language := by
  by_cases hone : before.length = 1
  · obtain ⟨g, rfl⟩ := List.length_eq_one_iff.1 hone
    refine ⟨concatAll [group, char ':', .group (groupsAfter 1 6)], by simp [ipv6Forms], ?_⟩
    exact mem_oneBefore_iff.2 ⟨g, after, by omega, hafter, hbefore g (by simp), rfl⟩
  by_cases hsix : before.length = 6
  · obtain ⟨g, rfl⟩ := List.length_eq_one_iff.1 (show after.length = 1 by omega)
    refine ⟨concatAll [groupsBefore 1 6, char ':', group], by simp [ipv6Forms], ?_⟩
    exact mem_oneBehind_iff.2 ⟨before, g, by omega, hbefore, hafter g (by simp), rfl⟩
  · refine ⟨shortened before.length, ?_, ?_⟩
    · have hlength : before.length = 2 ∨ before.length = 3 ∨ before.length = 4 ∨
          before.length = 5 := by
        omega
      rcases hlength with h | h | h | h <;> rw [h] <;> simp [ipv6Forms]
    · exact (mem_shortened_iff hpos (by omega)).2
        ⟨before, after, ⟨⟨hpos, le_rfl⟩, hbefore⟩, ⟨⟨hpos', by omega⟩, hafter⟩, rfl⟩

/-- Every address is matched by a form. -/
theorem exists_form_of_isIpv6 (h : IsIpv6 text) : ∃ r ∈ ipv6Forms, text ∈ r.language := by
  cases h with
  | full hgs eight =>
    exact ⟨_, List.mem_cons_self, mem_eightGroups_iff.2 ⟨_, eight, hgs, rfl⟩⟩
  | @shortened before after hbefore hafter room =>
    rcases before with _ | ⟨g, gs⟩
    · refine ⟨.concat (char ':') (.group (.alt (groupsAfter 1 7) (char ':'))), by simp [ipv6Forms],
        mem_noneBefore_iff.2 ?_⟩
      rcases after with _ | ⟨k, hs⟩
      · exact .inr rfl
      · refine .inl ⟨k :: hs, ⟨by simp, by simpa using room⟩, hafter, ?_⟩
        rw [led_cons]
        rfl
    · rcases after with _ | ⟨k, hs⟩
      · refine ⟨.concat (groupsBefore 1 7) (char ':'), by simp [ipv6Forms],
          mem_noneBehind_iff.2 ⟨g :: gs, ⟨by simp, room⟩, hbefore, ?_⟩⟩
        rw [trailed_cons, List.append_assoc]
        rfl
      · rw [← trailed_append_led (by simp) (by simp)]
        exact exists_form_of_rows hbefore hafter (by simp) (by simp) room

theorem lookFree_ipv6 : (concatAll [.group (altAll ipv6Forms)]).lookFree = true := rfl

/-- **What is accepted as an IPv6 address** among the texts without point and percent sign. -/
theorem accepts_ipv6_iff (text : String) (hpoint : '.' ∉ text.toList)
    (hpercent : '%' ∉ text.toList) :
    ipv6.accepts text = true ↔ IsIpv6 text.toList := by
  have hmatch : ipv6.regex.isMatch text = true ↔ _ := isMatch_whole_iff lookFree_ipv6 text
  rw [accepts_eq, hmatch, concatAll, mem_language_group, mem_language_altAll]
  constructor
  · rintro ⟨r, hr, htext⟩
    exact isIpv6_of_mem_form hpoint hpercent hr htext
  · exact exists_form_of_isIpv6

/-- An address with groups on both sides of the two colons, one of them of a single digit. -/
theorem accepts_ipv6_shortened :
    '.' ∉ "2001:DB8::8a2e:0".toList ∧ '%' ∉ "2001:DB8::8a2e:0".toList ∧
      ipv6.accepts "2001:DB8::8a2e:0" = true := by
  have hpoint : '.' ∉ "2001:DB8::8a2e:0".toList := by decide
  have hpercent : '%' ∉ "2001:DB8::8a2e:0".toList := by decide
  have haddress : IsIpv6 "2001:DB8::8a2e:0".toList :=
    @IsIpv6.shortened [['2', '0', '0', '1'], ['D', 'B', '8']] [['8', 'a', '2', 'e'], ['0']]
      (by decide) (by decide) (by decide)
  exact ⟨hpoint, hpercent, (accepts_ipv6_iff "2001:DB8::8a2e:0" hpoint hpercent).2 haddress⟩

end DataSchema.StringFormat
