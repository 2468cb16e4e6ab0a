import DataSchema.CharSet
import DataSchema.Unicode.Listed

/-!
# Properties of characters as sets

The properties that characters have or lack. Most are put together from general categories, listed
properties and the mappings of letter case.
-/

namespace DataSchema.CharSet

open Unicode Unicode.Listed

/-! ## Categories -/

/-- The union of the general categories whose short name starts with a letter. -/
def categoryGroup (letter : Char) : Table :=
  Category.all.flatMap fun (short, _, table) =>
    if short.toList.head? = some letter then table else []

/-- Every assigned character. -/
def assigned : Table := Category.all.flatMap fun (_, _, table) => table

def unassigned : CharSet := .compl (.ranges assigned)

/-! ## Identifiers -/

/-- What patterns use for their own syntax. -/
def patternReserved : CharSet := .ranges (patternSyntax ++ patternWhiteSpace)

/-- What can start an identifier. -/
def idStart : CharSet :=
  (CharSet.ranges (letter ++ Category.letterNumber ++ otherIdStart)).diff patternReserved

/-- What can continue an identifier. -/
def idContinue : CharSet :=
  .union idStart
    ((CharSet.ranges (Category.nonspacingMark ++ Category.spacingMark ++ Category.decimalNumber ++
      Category.connectorPunctuation ++ otherIdContinue)).diff patternReserved)

/-- What can start an identifier in every normal form. -/
def stableIdStart : CharSet := idStart.diff (.ranges unstableStart)

def stableIdContinue : CharSet := idContinue.diff (.ranges unstableContinue)

/-! ## Letter case -/

def changesWhenLowercased : CharSet :=
  .ranges (CaseTable.lowerRuns.flatMap (·.domain) ++ CaseTable.lowerLong.map fun (c, _) => (c, c))

def changesWhenUppercased : CharSet :=
  .ranges (CaseTable.upperRuns.flatMap (·.domain) ++ CaseTable.upperLong.map fun (c, _) => (c, c))

/-- Letters in title case keep it, and Georgian letters have no title case of their own. -/
def changesWhenTitlecased : CharSet :=
  .union (.ranges (.ofText "1C4 1C7 1CA 1F1"))
    (changesWhenUppercased.diff (.ranges (.ofText
      "1C5 1C8 1CB 1F2 10D0-10FA 10FD-10FF 1F88-1F8F 1F98-1F9F 1FA8-1FAF 1FBC 1FCC 1FFC")))

/-- Beside upper-case letters, case folding changes forms of lower-case letters and the small
letters of Cherokee, whose capitals it keeps. -/
def changesWhenCasefolded : CharSet :=
  .union
    (.ranges (.ofText
      "B5 DF 149 17F 345 3C2 3D0-3D1 3D5-3D6 3F0-3F1 3F5 587 13F8-13FD 1C80-1C88 1E9A-1E9B
      1F80-1F87 1F90-1F97 1FA0-1FA7 1FB2-1FB4 1FB7 1FC2-1FC4 1FC7 1FF2-1FF4 1FF7 AB70-ABBF
      FB00-FB06 FB13-FB17"))
    (changesWhenLowercased.diff (.ranges [(0x13A0, 0x13F5)]))

/-! ## Other properties -/

/-- What is ignored where it cannot be shown. -/
def defaultIgnorable : CharSet :=
  (CharSet.ranges (otherDefaultIgnorable ++ Category.format ++ variationSelector)).diff
    (.ranges (prependedConcatenationMark ++ [(0xFFF9, 0xFFFB), (0x13430, 0x13440)]))

/-- What can stand at the base of a grapheme. -/
def graphemeBase : CharSet :=
  (CharSet.ranges assigned).diff (.ranges (Category.control ++ Category.format ++
    Category.privateUse ++ Category.lineSeparator ++ Category.paragraphSeparator ++
    graphemeExtend))

/-! ## Properties by name -/

/-- The properties that a character has or lacks, under the names that each is known by. -/
def properties : List (List String × CharSet) :=
  [(["AHex", "ASCII_Hex_Digit"], .ranges asciiHexDigit),
   (["Alpha", "Alphabetic"], .ranges alphabetic),
   (["Bidi_C", "Bidi_Control"], .ranges bidiControl),
   (["Bidi_M", "Bidi_Mirrored"], .ranges bidiMirrored),
   (["Cased"], .ranges cased),
   (["CI", "Case_Ignorable"], .ranges caseIgnorable),
   (["CWCF", "Changes_When_Casefolded"], changesWhenCasefolded),
   (["CWCM", "Changes_When_Casemapped"], .union changesWhenLowercased changesWhenUppercased),
   (["CWL", "Changes_When_Lowercased"], changesWhenLowercased),
   (["CWT", "Changes_When_Titlecased"], changesWhenTitlecased),
   (["CWU", "Changes_When_Uppercased"], changesWhenUppercased),
   (["Dash"], .ranges dash),
   (["DI", "Default_Ignorable_Code_Point"], defaultIgnorable),
   (["Dep", "Deprecated"], .ranges deprecated),
   (["Dia", "Diacritic"], .ranges diacritic),
   (["Emoji"], .ranges emoji),
   (["EComp", "Emoji_Component"], .ranges emojiComponent),
   (["EMod", "Emoji_Modifier"], .ranges emojiModifier),
   (["EBase", "Emoji_Modifier_Base"], .ranges emojiModifierBase),
   (["EPres", "Emoji_Presentation"], .ranges emojiPresentation),
   (["ExtPict", "Extended_Pictographic"], .ranges extendedPictographic),
   (["Ext", "Extender"], .ranges extender),
   (["Gr_Base", "Grapheme_Base"], graphemeBase),
   (["Gr_Ext", "Grapheme_Extend"], .ranges graphemeExtend),
   (["Gr_Link", "Grapheme_Link"], .ranges graphemeLink),
   (["Hex", "Hex_Digit"], .ranges hexDigit),
   (["Hyphen"], .ranges hyphen),
   (["IDC", "ID_Continue"], idContinue),
   (["IDS", "ID_Start"], idStart),
   (["IDSB", "IDS_Binary_Operator"], .ranges idsBinaryOperator),
   (["IDST", "IDS_Trinary_Operator"], .ranges idsTrinaryOperator),
   (["IDSU", "IDS_Unary_Operator"], .ranges idsUnaryOperator),
   (["ID_Compat_Math_Continue"], .ranges (compatMathStart ++ compatMathScript)),
   (["ID_Compat_Math_Start"], .ranges compatMathStart),
   (["Ideo", "Ideographic"], .ranges ideographic),
   (["Join_C", "Join_Control"], .ranges joinControl),
   (["LOE", "Logical_Order_Exception"], .ranges logicalOrderException),
   (["Lower", "Lowercase"], .ranges lowercase),
   (["Math"], .ranges (Category.mathSymbol ++ otherMath)),
   (["MCM", "Modifier_Combining_Mark"], .ranges modifierCombiningMark),
   (["NChar", "Noncharacter_Code_Point"], .ranges noncharacter),
   (["OAlpha", "Other_Alphabetic"], .ranges Category.otherAlphabetic),
   (["ODI", "Other_Default_Ignorable_Code_Point"], .ranges otherDefaultIgnorable),
   (["OGr_Ext", "Other_Grapheme_Extend"], .ranges otherGraphemeExtend),
   (["OIDC", "Other_ID_Continue"], .ranges otherIdContinue),
   (["OIDS", "Other_ID_Start"], .ranges otherIdStart),
   (["OLower", "Other_Lowercase"], .ranges Category.otherLowercase),
   (["OMath", "Other_Math"], .ranges otherMath),
   (["OUpper", "Other_Uppercase"], .ranges Category.otherUppercase),
   (["Pat_Syn", "Pattern_Syntax"], .ranges patternSyntax),
   (["Pat_WS", "Pattern_White_Space"], .ranges patternWhiteSpace),
   (["PCM", "Prepended_Concatenation_Mark"], .ranges prependedConcatenationMark),
   (["QMark", "Quotation_Mark"], .ranges quotationMark),
   (["Radical"], .ranges radical),
   (["RI", "Regional_Indicator"], .ranges regionalIndicator),
   (["STerm", "Sentence_Terminal"], .ranges sentenceTerminal),
   (["SD", "Soft_Dotted"], .ranges softDotted),
   (["Term", "Terminal_Punctuation"], .ranges terminalPunctuation),
   (["UIdeo", "Unified_Ideograph"], .ranges unifiedIdeograph),
   (["Upper", "Uppercase"], .ranges uppercase),
   (["VS", "Variation_Selector"], .ranges variationSelector),
   (["WSpace", "White_Space", "space"], .ranges whitespace),
   (["XIDC", "XID_Continue"], stableIdContinue),
   (["XIDS", "XID_Start"], stableIdStart)]

end DataSchema.CharSet
