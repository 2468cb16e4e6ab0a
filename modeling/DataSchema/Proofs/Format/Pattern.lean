import DataSchema.Proofs.Regex.Reads
import DataSchema.Validate.Format

/-!
# The patterns of the formats

**Theorem (`parse_pattern`).** The pattern of each format is read as the expression of the format
(`regex`), so a text is in a format if and only if the expression matches (`accepts_eq`).

The expressions are put together from named parts. Each part has its text beside it and the theorem
that this text is read as the part; the texts put together are the whole pattern. Where a pattern
changes, the text of a part has to change with it, and then the part.

How deep a part is nested is given as a sum. The limit is far above what the formats need.
-/

namespace DataSchema.StringFormat

open Regex Regex.Parser

variable {d m n : Nat} {text : List Char} {r : Regex} {rs : List Regex}

/-! ## Parts of all patterns -/

/-- A text in parentheses. -/
def captured (text : List Char) : List Char := '(' :: (text ++ [')'])

theorem readsItem_captured (h : ReadsBranches text d rs) :
    ReadsItem (captured text) (d + 2) (.group (oneOf rs)) :=
  h.group readsOpening_capture

/-- Two digits with a comma between them, in braces. -/
def boundsText (m n : Nat) : List Char := ['\x7b', m.digitChar, ',', n.digitChar, '\x7d']

theorem readsRepetition_bounds (h : m ≤ n ∧ n < 10) :
    ReadsRepetition (boundsText m n) m (some n) :=
  readsRepetition_counted
    (.both (isCount_digitChar (Nat.lt_of_le_of_lt h.1 h.2)) (isCount_digitChar h.2) h.1)

def digit : Regex := .chars (.range '0' '9')

/-- The text `[0-9]`. -/
def digitText : List Char := ['[', '0', '-', '9', ']']

theorem readsItem_digit : ReadsItem digitText (d + 2) digit := readsItem_range (by decide)

/-- The text `25[0-5]`. -/
def highText : List Char := ['2', '5', '[', '0', '-', '5', ']']

theorem readsRow_high : ReadsRow highText (d + 2) [char '2', char '5', .chars (.range '0' '5')] :=
  .cons (readsItem_literal (by decide)) (.cons (readsItem_literal (by decide))
    (.single (readsItem_range (by decide))))

/-- The text `2[0-4]`. -/
def twentiesText : List Char := ['2', '[', '0', '-', '4', ']']

theorem readsRow_twenties : ReadsRow twentiesText (d + 2) [char '2', .chars (.range '0' '4')] :=
  .cons (readsItem_literal (by decide)) (.single (readsItem_range (by decide)))

/-- An octet with a point after it. -/
theorem readsItem_octetPoint (h : ReadsItem (captured text) d (.group r)) :
    ReadsItem (captured (captured text ++ ['\\', '.'])) (d + 3)
      (.group (.concat (.group r) (char '.'))) := by
  have hrow : ReadsRow (captured text ++ ['\\', '.']) d [.group r, char '.'] :=
    .cons h (.single readsItem_point)
  exact readsItem_captured (.single hrow)

/-! ## IPv4 -/

/-- The ways to write a number up to 255 in at most three digits; zeros may lead. -/
def octetForms : List Regex :=
  [concatAll [char '2', char '5', .chars (.range '0' '5')],
   concatAll [char '2', .chars (.range '0' '4'), digit],
   concatAll [opt (.chars (.anyOf [.single '0', .single '1'])), digit, opt digit]]

def octet : Regex := .group (altAll octetForms)

/-- The text `25[0-5]|2[0-4][0-9]|[01]?[0-9][0-9]?`. -/
def octetFormsText : List Char :=
  highText ++ '|' :: (twentiesText ++ digitText ++
    '|' :: (['[', '0', '1', ']'] ++ ['?'] ++ (digitText ++ (digitText ++ ['?']))))

theorem readsItem_octet : ReadsItem (captured octetFormsText) (d + 6) octet := by
  have hmiddle : ReadsRow (twentiesText ++ digitText) (d + 3)
      [char '2', .chars (.range '0' '4'), digit] :=
    readsRow_twenties.append (.single readsItem_digit)
  have hbits : ClassText ['0', '1'] [.single '0', .single '1'] :=
    classText_singles ['0', '1'] (by simp) (by decide) (by decide)
  have hbit : ReadsRow (['[', '0', '1', ']'] ++ ['?']) (d + 3)
      [opt (.chars (.anyOf [.single '0', .single '1']))] :=
    .repeated (readsItem_class (by decide) hbits) readsRepetition_opt
  have hlow : ReadsRow (['[', '0', '1', ']'] ++ ['?'] ++ (digitText ++ (digitText ++ ['?'])))
      (d + 3) [opt (.chars (.anyOf [.single '0', .single '1'])), digit, opt digit] :=
    hbit.append (.cons readsItem_digit (.repeated readsItem_digit readsRepetition_opt))
  exact readsItem_captured (.cons readsRow_high (.cons hmiddle (.single hlow)))

/-- Four octets with points between them. -/
def ipv4Regex : Regex := whole [times (.group (.concat octet (char '.'))) 3, octet]

theorem parse_ipv4Pattern : Regex.parse ipv4Pattern = .ok ipv4Regex := by
  have htext : ipv4Pattern.toList =
      ['^'] ++ (captured (captured octetFormsText ++ ['\\', '.']) ++ ['\x7b', '3', '\x7d'] ++
        (captured octetFormsText ++ ['$'])) := by
    -- A literal is the text of its characters, so the texts can be compared as lists.
    unfold ipv4Pattern
    rw [String.toList_append]
    repeat rw [String.toList_ofList]
    rfl
  have hthree : BoundsText ['3'] 3 (some 3) := .exact (isCount_digitChar (n := 3) (by decide))
  have hpoints : ReadsRow
      (captured (captured octetFormsText ++ ['\\', '.']) ++ ['\x7b', '3', '\x7d']) 10
      [times (.group (.concat octet (char '.'))) 3] :=
    .repeated (readsItem_octetPoint readsItem_octet) (readsRepetition_counted hthree)
  have hrow : ReadsRow ipv4Pattern.toList 10 [.look .textStart,
      times (.group (.concat octet (char '.'))) 3, octet, .look .textEnd] := by
    rw [htext]
    exact .cons readsItem_textStart
      (hpoints.append (.cons readsItem_octet (.single readsItem_textEnd)))
  have hfits : ipv4Regex.fits = true := by cbv
  exact parse_of_reads (.single hrow) (by decide) hfits

/-! ## IPv6 -/

def hexDigit : Regex := .chars (.anyOf [.range '0' '9', .range 'a' 'f', .range 'A' 'F'])

/-- The text `[0-9a-fA-F]`. -/
def hexDigitText : List Char := ['[', '0', '-', '9', 'a', '-', 'f', 'A', '-', 'F', ']']

theorem readsItem_hexDigit : ReadsItem hexDigitText (d + 2) hexDigit :=
  readsItem_class (by decide) (.range (by decide) (.range (by decide) (.range (by decide) .nil)))

theorem readsItem_colon : ReadsItem [':'] d (char ':') := readsItem_literal (by decide)

/-- Up to four hexadecimal digits. -/
def group : Regex := .rep hexDigit 1 (some 4)

/-- The text `[0-9a-fA-F]{1,4}`. -/
def groupText : List Char := hexDigitText ++ boundsText 1 4

theorem readsRow_group : ReadsRow groupText (d + 3) [group] :=
  .repeated readsItem_hexDigit (readsRepetition_bounds (by decide))

/-- Groups, each with a colon after it. -/
def groupsBefore (least most : Nat) : Regex :=
  .rep (.group (.concat group (char ':'))) least (some most)

/-- The text `([0-9a-fA-F]{1,4}:)` with bounds. -/
def groupsBeforeText (least most : Nat) : List Char :=
  captured (groupText ++ [':']) ++ boundsText least most

theorem readsRow_groupsBefore (h : m ≤ n ∧ n < 10) :
    ReadsRow (groupsBeforeText m n) (d + 7) [groupsBefore m n] := by
  have hrow : ReadsRow (groupText ++ [':']) (d + 3) [group, char ':'] :=
    readsRow_group.append (.single readsItem_colon)
  exact .repeated (readsItem_captured (.single hrow)) (readsRepetition_bounds h)

/-- Groups, each with a colon before it. -/
def groupsAfter (least most : Nat) : Regex :=
  .rep (.group (.concat (char ':') group)) least (some most)

/-- The text `(:[0-9a-fA-F]{1,4})` with bounds. -/
def groupsAfterText (least most : Nat) : List Char :=
  captured ([':'] ++ groupText) ++ boundsText least most

theorem readsRow_groupsAfter (h : m ≤ n ∧ n < 10) :
    ReadsRow (groupsAfterText m n) (d + 7) [groupsAfter m n] := by
  have hrow : ReadsRow ([':'] ++ groupText) (d + 3) [char ':', group] :=
    .cons readsItem_colon readsRow_group
  exact .repeated (readsItem_captured (.single hrow)) (readsRepetition_bounds h)

/-- Some groups, then two colons, then as many as there is room for. -/
def shortened (before : Nat) : Regex :=
  .concat (groupsBefore 1 before) (groupsAfter 1 (7 - before))

theorem readsRow_shortened (h : 1 ≤ n ∧ n ≤ 6) :
    ReadsRow (groupsBeforeText 1 n ++ groupsAfterText 1 (7 - n)) (d + 7)
      [groupsBefore 1 n, groupsAfter 1 (7 - n)] :=
  .append (readsRow_groupsBefore (by omega)) (readsRow_groupsAfter (by omega))

/-- An octet of an address that ends in the IPv4 form; a single zero may lead. -/
def embeddedOctet : Regex :=
  .group (altAll
    [concatAll [char '2', char '5', .chars (.range '0' '5')],
     .concat
       (opt (.group
         (.alt (.concat (char '2') (.chars (.range '0' '4'))) (.concat (opt (char '1')) digit))))
       digit])

/-- The text `25[0-5]|(2[0-4]|1{0,1}[0-9]){0,1}[0-9]`. -/
def embeddedOctetText : List Char :=
  highText ++ '|' :: (captured (twentiesText ++ '|' :: (['1'] ++ boundsText 0 1 ++ digitText)) ++
    boundsText 0 1 ++ digitText)

theorem readsItem_embeddedOctet :
    ReadsItem (captured embeddedOctetText) (d + 10) embeddedOctet := by
  have hone : ReadsRow (['1'] ++ boundsText 0 1) (d + 3) [opt (char '1')] :=
    .repeated (readsItem_literal (by decide)) (readsRepetition_bounds (by decide))
  have hteens : ReadsRow (['1'] ++ boundsText 0 1 ++ digitText) (d + 3) [opt (char '1'), digit] :=
    hone.append (.single readsItem_digit)
  have htens : ReadsRow
      (captured (twentiesText ++ '|' :: (['1'] ++ boundsText 0 1 ++ digitText)) ++
        boundsText 0 1) (d + 7)
      [opt (.group (.alt (.concat (char '2') (.chars (.range '0' '4')))
        (.concat (opt (char '1')) digit)))] :=
    .repeated (readsItem_captured (.cons readsRow_twenties (.single hteens)))
      (readsRepetition_bounds (by decide))
  exact readsItem_captured
    (.cons readsRow_high (.single (htens.append (.single readsItem_digit))))

def embeddedIpv4 : List Regex :=
  [times (.group (.concat embeddedOctet (char '.'))) 3, embeddedOctet]

/-- Four octets with points between them. -/
def embeddedIpv4Text : List Char :=
  captured (captured embeddedOctetText ++ ['\\', '.']) ++ boundsText 3 3 ++
    captured embeddedOctetText

theorem readsRow_embeddedIpv4 : ReadsRow embeddedIpv4Text (d + 14) embeddedIpv4 := by
  have hpoints : ReadsRow
      (captured (captured embeddedOctetText ++ ['\\', '.']) ++ boundsText 3 3) (d + 14)
      [times (.group (.concat embeddedOctet (char '.'))) 3] :=
    .repeated (readsItem_octetPoint readsItem_embeddedOctet) (readsRepetition_bounds (by decide))
  exact hpoints.append (.single readsItem_embeddedOctet)

/-- A link-local address with the name of its zone. -/
def linkLocal : List Regex :=
  ['f', 'e', '8', '0', ':'].map char ++
    [.rep (.group (.concat (char ':') (.rep hexDigit 0 (some 4)))) 0 (some 4), char '%',
      plus (.chars (.anyOf [.range '0' '9', .range 'a' 'z', .range 'A' 'Z']))]

/-- The text `fe80:(:[0-9a-fA-F]{0,4}){0,4}%[0-9a-zA-Z]{1,}`. -/
def linkLocalText : List Char :=
  ['f', 'e', '8', '0', ':'] ++ (captured ([':'] ++ (hexDigitText ++ boundsText 0 4)) ++
    boundsText 0 4 ++ (['%'] ++
      (['[', '0', '-', '9', 'a', '-', 'z', 'A', '-', 'Z', ']'] ++ ['\x7b', '1', ',', '\x7d'])))

theorem readsRow_linkLocal : ReadsRow linkLocalText (d + 7) linkLocal := by
  have hgroup : ReadsRow ([':'] ++ (hexDigitText ++ boundsText 0 4)) (d + 3)
      [char ':', .rep hexDigit 0 (some 4)] :=
    .cons readsItem_colon (.repeated readsItem_hexDigit (readsRepetition_bounds (by decide)))
  have hgroups : ReadsRow
      (captured ([':'] ++ (hexDigitText ++ boundsText 0 4)) ++ boundsText 0 4) (d + 7)
      [.rep (.group (.concat (char ':') (.rep hexDigit 0 (some 4)))) 0 (some 4)] :=
    .repeated (readsItem_captured (.single hgroup)) (readsRepetition_bounds (by decide))
  have hzone : ClassText ['0', '-', '9', 'a', '-', 'z', 'A', '-', 'Z']
      [.range '0' '9', .range 'a' 'z', .range 'A' 'Z'] :=
    .range (by decide) (.range (by decide) (.range (by decide) .nil))
  have hsome : BoundsText ['1', ','] 1 none := .least (isCount_digitChar (n := 1) (by decide))
  have hafter : ReadsRow _ (d + 7) [char '%', _] := .cons (readsItem_literal (by decide))
    (.repeated (readsItem_class (by decide) hzone) (readsRepetition_counted hsome))
  exact (readsRow_literals (by simp [IsPlain])).append (hgroups.append hafter)

/-- What may stand before an embedded IPv4 address. -/
def mapped : List Regex :=
  ['f', 'f', 'f', 'f'].map char ++
    [opt (.group (.concat (char ':') (.rep (char '0') 1 (some 4)))), char ':']

/-- The text `ffff(:0{1,4}){0,1}:`. -/
def mappedText : List Char :=
  ['f', 'f', 'f', 'f'] ++ (captured ([':'] ++ (['0'] ++ boundsText 1 4)) ++ boundsText 0 1 ++ [':'])

theorem readsRow_mapped : ReadsRow mappedText (d + 5) mapped := by
  have hzeros : ReadsRow ([':'] ++ (['0'] ++ boundsText 1 4)) (d + 1)
      [char ':', .rep (char '0') 1 (some 4)] :=
    .cons readsItem_colon
      (.repeated (readsItem_literal (by decide)) (readsRepetition_bounds (by decide)))
  have hgroup : ReadsRow (captured ([':'] ++ (['0'] ++ boundsText 1 4)) ++ boundsText 0 1) (d + 5)
      [opt (.group (.concat (char ':') (.rep (char '0') 1 (some 4))))] :=
    .repeated (readsItem_captured (.single hzeros)) (readsRepetition_bounds (by decide))
  exact (readsRow_literals (by simp [IsPlain])).append (hgroup.append (.single readsItem_colon))

/-- The forms of an address. -/
def ipv6Forms : List Regex :=
  [.concat (groupsBefore 7 7) group,
   .concat (groupsBefore 1 7) (char ':'),
   concatAll [groupsBefore 1 6, char ':', group],
   shortened 5,
   shortened 4,
   shortened 3,
   shortened 2,
   concatAll [group, char ':', .group (groupsAfter 1 6)],
   .concat (char ':') (.group (.alt (groupsAfter 1 7) (char ':'))),
   concatAll linkLocal,
   concatAll ([char ':', char ':', opt (.group (concatAll mapped))] ++ embeddedIpv4),
   concatAll ([groupsBefore 1 4, char ':'] ++ embeddedIpv4)]

/-- The texts of the forms with bars between them. -/
def ipv6FormsText : List Char :=
  (groupsBeforeText 7 7 ++ groupText) ++ '|' ::
  ((groupsBeforeText 1 7 ++ [':']) ++ '|' ::
  ((groupsBeforeText 1 6 ++ ([':'] ++ groupText)) ++ '|' ::
  ((groupsBeforeText 1 5 ++ groupsAfterText 1 2) ++ '|' ::
  ((groupsBeforeText 1 4 ++ groupsAfterText 1 3) ++ '|' ::
  ((groupsBeforeText 1 3 ++ groupsAfterText 1 4) ++ '|' ::
  ((groupsBeforeText 1 2 ++ groupsAfterText 1 5) ++ '|' ::
  ((groupText ++ ([':'] ++ captured (groupsAfterText 1 6))) ++ '|' ::
  (([':'] ++ captured (groupsAfterText 1 7 ++ '|' :: [':'])) ++ '|' ::
  (linkLocalText ++ '|' ::
  (([':'] ++ ([':'] ++ (captured mappedText ++ boundsText 0 1 ++ embeddedIpv4Text))) ++ '|' ::
  (groupsBeforeText 1 4 ++ ([':'] ++ embeddedIpv4Text))))))))))))

theorem readsBranches_ipv6Forms : ReadsBranches ipv6FormsText 15 ipv6Forms := by
  -- The forms are named for the groups that they have before and after the two colons.
  have hfull : ReadsRow (groupsBeforeText 7 7 ++ groupText) 14 [groupsBefore 7 7, group] :=
    .append (readsRow_groupsBefore (by decide)) readsRow_group
  have hnoLast : ReadsRow (groupsBeforeText 1 7 ++ [':']) 14 [groupsBefore 1 7, char ':'] :=
    .append (readsRow_groupsBefore (by decide)) (.single readsItem_colon)
  have honeLast : ReadsRow (groupsBeforeText 1 6 ++ ([':'] ++ groupText)) 14
      [groupsBefore 1 6, char ':', group] :=
    .append (readsRow_groupsBefore (by decide)) (.cons readsItem_colon readsRow_group)
  have honeFirst : ReadsRow (groupText ++ ([':'] ++ captured (groupsAfterText 1 6))) 14
      [group, char ':', .group (groupsAfter 1 6)] := by
    have hafter : ReadsRow (groupsAfterText 1 6) 11 [groupsAfter 1 6] :=
      readsRow_groupsAfter (by decide)
    exact readsRow_group.append
      (.cons readsItem_colon (.single (readsItem_captured (.single hafter))))
  have hnoFirst : ReadsRow ([':'] ++ captured (groupsAfterText 1 7 ++ '|' :: [':'])) 14
      [char ':', .group (.alt (groupsAfter 1 7) (char ':'))] := by
    have hafter : ReadsRow (groupsAfterText 1 7) 11 [groupsAfter 1 7] :=
      readsRow_groupsAfter (by decide)
    have hnone : ReadsRow [':'] 11 [char ':'] := .single readsItem_colon
    exact .cons readsItem_colon (.single (readsItem_captured (.cons hafter (.single hnone))))
  have hmapped : ReadsRow
      ([':'] ++ ([':'] ++ (captured mappedText ++ boundsText 0 1 ++ embeddedIpv4Text))) 14
      ([char ':', char ':', opt (.group (concatAll mapped))] ++ embeddedIpv4) := by
    have hgroup : ReadsRow (captured mappedText ++ boundsText 0 1) 14
        [opt (.group (concatAll mapped))] :=
      .repeated (readsItem_captured (.single readsRow_mapped)) (readsRepetition_bounds (by decide))
    exact .cons readsItem_colon (.cons readsItem_colon (hgroup.append readsRow_embeddedIpv4))
  have hembedded : ReadsRow (groupsBeforeText 1 4 ++ ([':'] ++ embeddedIpv4Text)) 14
      ([groupsBefore 1 4, char ':'] ++ embeddedIpv4) := by
    have hbefore : ReadsRow (groupsBeforeText 1 4) 14 [groupsBefore 1 4] :=
      readsRow_groupsBefore (by decide)
    exact hbefore.append (.cons readsItem_colon readsRow_embeddedIpv4)
  exact .cons hfull <| .cons hnoLast <| .cons honeLast <|
    .cons (readsRow_shortened (n := 5) (by decide)) <|
    .cons (readsRow_shortened (n := 4) (by decide)) <|
    .cons (readsRow_shortened (n := 3) (by decide)) <|
    .cons (readsRow_shortened (n := 2) (by decide)) <|
    .cons honeFirst <| .cons hnoFirst <| .cons readsRow_linkLocal <| .cons hmapped <|
    .single hembedded

def ipv6Regex : Regex := whole [.group (altAll ipv6Forms)]

-- The texts are compared character by character.
set_option maxRecDepth 4000 in
theorem parse_ipv6Pattern : Regex.parse ipv6Pattern = .ok ipv6Regex := by
  have htext : ipv6Pattern.toList = ['^'] ++ (captured ipv6FormsText ++ ['$']) := by
    unfold ipv6Pattern
    repeat rw [String.toList_append]
    repeat rw [String.toList_ofList]
    rfl
  have hrow : ReadsRow ipv6Pattern.toList 17
      [.look .textStart, .group (altAll ipv6Forms), .look .textEnd] := by
    rw [htext]
    exact .cons readsItem_textStart
      (.cons (readsItem_captured readsBranches_ipv6Forms) (.single readsItem_textEnd))
  have hfits : ipv6Regex.fits = true := by cbv
  exact parse_of_reads (.single hrow) (by decide) hfits

/-! ## Email -/

/-- A text in parentheses that do not capture. -/
def grouped (text : List Char) : List Char := ['(', '?', ':'] ++ (text ++ [')'])

theorem readsItem_grouped (h : ReadsBranches text d rs) :
    ReadsItem (grouped text) (d + 2) (oneOf rs) :=
  h.group readsOpening_plain

/-- The marks that an address may have before the at sign. -/
def marks : List Char := "!#$%&'*+/=?^_`\x7b|\x7d~-".toList

/-- A row of the characters that an address may have before the at sign, points apart. -/
def emailAtom : Regex :=
  plus (.chars (.anyOf (.range 'a' 'z' :: .range '0' '9' :: marks.map .single)))

/-- The class of small letters, digits and marks, with a plus sign after it. -/
def emailAtomText : List Char :=
  '[' :: 'a' :: (['-', 'z', '0', '-', '9'] ++ marks ++ [']']) ++ ['+']

theorem readsRow_emailAtom : ReadsRow emailAtomText (d + 3) [emailAtom] := by
  have hmarks : ClassText marks (marks.map .single) :=
    classText_singles marks (by unfold marks; simp) (by decide) (by decide)
  have hclass : ClassText ('a' :: (['-', 'z', '0', '-', '9'] ++ marks))
      (.range 'a' 'z' :: .range '0' '9' :: marks.map .single) :=
    .range (by decide) (.range (by decide) hmarks)
  exact .repeated (readsItem_class (by decide) hclass) readsRepetition_plus

def small : Regex := .chars (.anyOf [.range 'a' 'z', .range '0' '9'])

/-- The text `[a-z0-9]`. -/
def smallText : List Char := ['[', 'a', '-', 'z', '0', '-', '9', ']']

theorem readsItem_small : ReadsItem smallText (d + 2) small :=
  readsItem_class (by decide) (.range (by decide) (.range (by decide) .nil))

/-- Small letters and digits, with hyphens inside. -/
def domainLabel : List Regex :=
  [small,
   opt (.concat
     (star (.chars (.anyOf [.range 'a' 'z', .range '0' '9', .single '-']))) small)]

/-- The text `[a-z0-9-]*`. -/
def innerText : List Char := ['[', 'a', '-', 'z', '0', '-', '9', '-', ']'] ++ ['*']

/-- The text `[a-z0-9](?:[a-z0-9-]*[a-z0-9])?`. -/
def domainLabelText : List Char :=
  smallText ++ (grouped (innerText ++ smallText) ++ ['?'])

theorem readsRow_domainLabel : ReadsRow domainLabelText (d + 7) domainLabel := by
  have hclass : ClassText ['a', '-', 'z', '0', '-', '9', '-']
      [.range 'a' 'z', .range '0' '9', .single '-'] :=
    .range (by decide) (.range (by decide)
      (classText_singles ['-'] (by simp) (by decide) (by decide)))
  have hinner : ReadsRow innerText (d + 3)
      [star (.chars (.anyOf [.range 'a' 'z', .range '0' '9', .single '-']))] :=
    .repeated (readsItem_class (by decide) hclass) readsRepetition_star
  have hrow : ReadsRow (innerText ++ smallText) (d + 3)
      [star (.chars (.anyOf [.range 'a' 'z', .range '0' '9', .single '-'])), small] :=
    hinner.append (.single readsItem_small)
  exact .cons readsItem_small (.repeated (readsItem_grouped (.single hrow)) readsRepetition_opt)

/-- Atoms joined by points, an at sign, and at least two labels joined by points. -/
def emailRegex : Regex :=
  whole
    ([emailAtom, star (.concat (char '.') emailAtom), char '@',
      plus (concatAll (domainLabel ++ [char '.']))] ++ domainLabel)

theorem parse_emailPattern : Regex.parse emailPattern = .ok emailRegex := by
  have htext : emailPattern.toList =
      ['^'] ++ (emailAtomText ++ (grouped (['\\', '.'] ++ emailAtomText) ++ ['*'] ++ (['@'] ++
        (grouped (domainLabelText ++ ['\\', '.']) ++ ['+'] ++ (domainLabelText ++ ['$']))))) := by
    unfold emailPattern emailAtomText marks
    repeat rw [String.toList_append]
    repeat rw [String.toList_ofList]
    rfl
  have hatoms : ReadsRow (grouped (['\\', '.'] ++ emailAtomText) ++ ['*']) 11
      [star (.concat (char '.') emailAtom)] := by
    have hrow : ReadsRow (['\\', '.'] ++ emailAtomText) 7 [char '.', emailAtom] :=
      .cons readsItem_point readsRow_emailAtom
    exact .repeated (readsItem_grouped (.single hrow)) readsRepetition_star
  have hlabels : ReadsRow (grouped (domainLabelText ++ ['\\', '.']) ++ ['+']) 11
      [plus (concatAll (domainLabel ++ [char '.']))] := by
    have hrow : ReadsRow (domainLabelText ++ ['\\', '.']) 7 (domainLabel ++ [char '.']) :=
      readsRow_domainLabel.append (.single readsItem_point)
    exact .repeated (readsItem_grouped (.single hrow)) readsRepetition_plus
  have hdomain := hlabels.append (readsRow_domainLabel.append (.single readsItem_textEnd))
  have hrow : ReadsRow emailPattern.toList 11
      (.look .textStart :: ([emailAtom, star (.concat (char '.') emailAtom), char '@',
        plus (concatAll (domainLabel ++ [char '.']))] ++ domainLabel ++ [.look .textEnd])) := by
    rw [htext]
    exact .cons readsItem_textStart
      (readsRow_emailAtom.append (hatoms.append (.cons (readsItem_literal (by decide)) hdomain)))
  have hfits : emailRegex.fits = true := by cbv
  exact parse_of_reads (.single hrow) (by decide) hfits

/-! ## Formats -/

/-- The regular expression that the pattern of a format is. -/
def regex : StringFormat → Regex
  | .email => emailRegex
  | .ipv4 => ipv4Regex
  | .ipv6 => ipv6Regex

/-- **The pattern of each format is read as the expression of the format.** -/
theorem parse_pattern (f : StringFormat) : Regex.parse f.pattern = .ok f.regex := by
  cases f with
  | email => exact parse_emailPattern
  | ipv4 => exact parse_ipv4Pattern
  | ipv6 => exact parse_ipv6Pattern

theorem regex?_eq (f : StringFormat) : f.regex? = some f.regex := by
  rw [regex?, parse_pattern]
  rfl

theorem accepts_eq (f : StringFormat) (text : String) : f.accepts text = f.regex.isMatch text := by
  rw [accepts, regex?_eq]
  rfl

end DataSchema.StringFormat
