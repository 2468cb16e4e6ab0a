import DataSchema.CharSet.Property
import DataSchema.Unicode.Script

/-!
# Classes of segmentation

Text is cut into graphemes, words and sentences by classes of characters. For each of the three
cuts a character has one class; what has no class here has none of the names below either.
-/

namespace DataSchema.CharSet

open Unicode Unicode.Listed

def carriageReturn : CharSet := .single '\r'

def lineFeed : CharSet := .single '\n'

def zeroWidthJoiner : Table := [(0x200D, 0x200D)]

/-! ## Graphemes -/

/-- Hangul syllables of two letters: every twenty-eighth of all. -/
def twoLetterSyllables : Table :=
  (List.range 399).map fun k => (0xAC00 + 28 * k, 0xAC00 + 28 * k)

/-- The vowels of Kirat Rai that are cut as Hangul vowels are. -/
def kiratVowels : Table := .ofText "16D63 16D67-16D6A"

/-- What is cut before and after. -/
def graphemeControl : CharSet :=
  (CharSet.union
    (.ranges (Category.lineSeparator ++ Category.paragraphSeparator ++ Category.control ++
      Category.format))
    (.inter unassigned defaultIgnorable)).diff
    (.ranges ([(0xA, 0xA), (0xD, 0xD)] ++ joinControl ++ prependedConcatenationMark ++
      graphemeExtend))

/-- Marks that take room and still belong to the grapheme before them. -/
def graphemeSpacing : CharSet :=
  (CharSet.ranges (Category.spacingMark ++ [(0xE33, 0xE33), (0xEB3, 0xEB3)])).diff
    (.ranges (graphemeExtend ++ .ofText
      "102B-102C 1038 1062-1064 1067-106D 1083 1087-108C 108F 109A-109C 1A61 1A63-1A64 AA7B AA7D
      11720-11721"))

/-- The classes that cut graphemes. -/
def graphemeBreak : List (List String × CharSet) :=
  [(["CR"], carriageReturn),
   (["LF"], lineFeed),
   (["CN", "Control"], graphemeControl),
   (["EX", "Extend"], .ranges (graphemeExtend ++ emojiModifier)),
   (["L"], .ranges (.ofText "1100-115F A960-A97C")),
   (["V"], .ranges (.ofText "1160-11A7 D7B0-D7C6" ++ kiratVowels)),
   (["T"], .ranges (.ofText "11A8-11FF D7CB-D7FB")),
   (["LV"], .ranges twoLetterSyllables),
   (["LVT"], (CharSet.ranges [(0xAC00, 0xD7A3)]).diff (.ranges twoLetterSyllables)),
   (["PP", "Prepend"], .ranges (prependedConcatenationMark ++ .ofText
      "D4E 111C2-111C3 113D1 1193F 11941 11A3A 11A84-11A89 11D46 11F02")),
   (["RI", "Regional_Indicator"], .ranges regionalIndicator),
   (["SM", "SpacingMark"], graphemeSpacing),
   (["ZWJ"], .ranges zeroWidthJoiner)]

/-! ## Words -/

/-- What continues the character before it within a word. -/
def wordExtend : CharSet :=
  (CharSet.ranges (graphemeExtend ++ Category.spacingMark ++ emojiModifier)).diff
    (.ranges zeroWidthJoiner)

/-- Signs that enclose digits and count as digits themselves. -/
def numericSigns : CharSet :=
  (CharSet.ranges prependedConcatenationMark).diff (.ranges [(0x70F, 0x70F)])

def wordNumeric : CharSet :=
  .union (.ranges (Category.decimalNumber ++ [(0x66B, 0x66B)])) numericSigns

def wordFormat : CharSet :=
  (CharSet.ranges Category.format).diff
    (.ranges ([(0x200B, 0x200D)] ++ graphemeExtend ++ prependedConcatenationMark))

def katakanaWord : Table :=
  Script.katakana ++ .ofText "3031-3035 309B-309C 30A0 30FC FF70"

def hebrewLetter : CharSet := .inter (.ranges Script.hebrew) (.ranges Category.otherLetter)

/-- Scripts that are written without marks between words. -/
def unspaced : Table :=
  Script.hiragana ++ Script.thai ++ Script.lao ++ Script.myanmar ++ Script.khmer ++ Script.taiLe ++
    Script.newTaiLue ++ Script.taiTham ++ Script.taiViet ++ Script.ahom

/-- The letters of words in scripts with marks between words. -/
def wordLetter : CharSet :=
  (CharSet.ranges (alphabetic ++ .ofText
    "2C2-2C5 2D2-2D7 2DE-2DF 2E5-2EB 2ED 2EF-2FF 55A-55C 55E 58A 5F3 70F A708-A716 A720-A721
    A789-A78A AB5B")).diff
    (.union (.ranges (ideographic ++ katakanaWord ++ unspaced)) (.union wordExtend hebrewLetter))

/-- The classes that cut words. -/
def wordBreak : List (List String × CharSet) :=
  [(["CR"], carriageReturn),
   (["LF"], lineFeed),
   (["NL", "Newline"], .ranges [(0xB, 0xC), (0x85, 0x85), (0x2028, 0x2029)]),
   (["DQ", "Double_Quote"], .single '\x22'),
   (["SQ", "Single_Quote"], .single '\x27'),
   (["Extend"], wordExtend),
   (["EX", "ExtendNumLet"],
    .ranges (Category.connectorPunctuation ++ [(0x202F, 0x202F)])),
   (["FO", "Format"], wordFormat),
   (["HL", "Hebrew_Letter"], hebrewLetter),
   (["KA", "Katakana"], .ranges katakanaWord),
   (["LE", "ALetter"], wordLetter),
   (["MB", "MidNumLet"], .ranges (.ofText "2E 2018-2019 2024 FE52 FF07 FF0E")),
   (["ML", "MidLetter"], .ranges (.ofText "3A B7 387 55F 5F4 2027 FE13 FE55 FF1A")),
   (["MN", "MidNum"], .ranges (.ofText
      "2C 3B 37E 589 60C-60D 66C 7F8 2044 FE10 FE14 FE50 FE54 FF0C FF1B")),
   (["NU", "Numeric"], wordNumeric),
   (["RI", "Regional_Indicator"], .ranges regionalIndicator),
   (["WSegSpace"],
    (CharSet.ranges Category.spaceSeparator).diff (.ranges (.ofText "A0 2007 202F"))),
   (["ZWJ"], .ranges zeroWidthJoiner)]

/-! ## Sentences -/

def sentenceExtend : Table := graphemeExtend ++ Category.spacingMark ++ zeroWidthJoiner

def sentenceSeparator : Table := [(0x85, 0x85), (0x2028, 0x2029)]

/-- Punctuation that ends a sentence and abbreviations too. -/
def ambiguousTerminal : Table := .ofText "2E 2024 FE52 FF0E"

def sentenceLower : CharSet :=
  (CharSet.ranges lowercase).diff
    (.ranges (graphemeExtend ++ [(0x10D0, 0x10FA), (0x10FD, 0x10FF)]))

def sentenceUpper : CharSet :=
  (CharSet.ranges (Category.titleLetter ++ uppercase)).diff
    (.ranges [(0x1C90, 0x1CBA), (0x1CBD, 0x1CBF)])

def sentenceLetter : CharSet :=
  (CharSet.ranges (alphabetic ++ [(0x5F3, 0x5F3)])).diff
    (.union (.union sentenceLower sentenceUpper) (.ranges sentenceExtend))

def sentenceClose : CharSet :=
  (CharSet.ranges (Category.openPunctuation ++ Category.closePunctuation ++
    Category.initialPunctuation ++ Category.finalPunctuation ++ .ofText
      "22 27 275B-2760 2E00-2E01 2E06-2E08 2E0B 1F676-1F678")).diff
    (.ranges ([(0x5F3, 0x5F3)] ++ ambiguousTerminal ++ sentenceTerminal))

/-- The classes that cut sentences. -/
def sentenceBreak : List (List String × CharSet) :=
  [(["CR"], carriageReturn),
   (["LF"], lineFeed),
   (["AT", "ATerm"], .ranges ambiguousTerminal),
   (["CL", "Close"], sentenceClose),
   (["EX", "Extend"], .ranges sentenceExtend),
   (["FO", "Format"],
    (CharSet.ranges Category.format).diff
      (.union (.ranges (joinControl ++ graphemeExtend)) numericSigns)),
   (["LE", "OLetter"], sentenceLetter),
   (["LO", "Lower"], sentenceLower),
   (["NU", "Numeric"],
    .union (.ranges (Category.decimalNumber ++ [(0x66B, 0x66C)])) numericSigns),
   (["SC", "SContinue"], .ranges (.ofText
      "2C-2D 3A-3B 37E 55D 60C-60D 7F8 1802 1808 2013-2014 3001 FE10-FE11 FE13-FE14 FE31-FE32
      FE50-FE51 FE54-FE55 FE58 FE63 FF0C-FF0D FF1A-FF1B FF64")),
   (["SE", "Sep"], .ranges sentenceSeparator),
   (["SP", "Sp"],
    (CharSet.ranges whitespace).diff
      (.ranges ([(0xA, 0xA), (0xD, 0xD)] ++ sentenceSeparator))),
   (["ST", "STerm"], (CharSet.ranges sentenceTerminal).diff (.ranges ambiguousTerminal)),
   (["UP", "Upper"], sentenceUpper)]

end DataSchema.CharSet
