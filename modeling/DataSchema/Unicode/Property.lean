import DataSchema.Unicode.Category

/-!
# Properties of characters

Properties that other modules ask for, put together from the general categories and the characters
that have a property beside them.
-/

namespace DataSchema.Unicode

open Category

/-- The white space characters. -/
def whitespace : Table :=
  [(0x9, 0xD), (0x20, 0x20), (0x85, 0x85), (0xA0, 0xA0), (0x1680, 0x1680), (0x2000, 0x200A),
   (0x2028, 0x2029), (0x202F, 0x202F), (0x205F, 0x205F), (0x3000, 0x3000)]

def isWhitespace (c : Char) : Bool := whitespace.contains c

def lowercase : Table := lowerLetter ++ otherLowercase

def uppercase : Table := upperLetter ++ otherUppercase

def letter : Table := upperLetter ++ lowerLetter ++ titleLetter ++ modifierLetter ++ otherLetter

def mark : Table := nonspacingMark ++ spacingMark ++ enclosingMark

def alphabetic : Table :=
  lowercase ++ uppercase ++ otherLetter ++ modifierLetter ++ titleLetter ++ letterNumber ++
    otherAlphabetic

/-- The joiners that keep two characters of a word together. -/
def joinControl : Table := [(0x200C, 0x200D)]

/-- The characters of words: letters, marks, decimal digits, connectors and joiners. -/
def word : Table := alphabetic ++ mark ++ decimalNumber ++ connectorPunctuation ++ joinControl

def isAlphabetic (c : Char) : Bool := alphabetic.contains c

def isAlphanumeric (c : Char) : Bool :=
  isAlphabetic c || decimalNumber.contains c || letterNumber.contains c || otherNumber.contains c

/-- The characters in upper, lower or title case. -/
def cased : Table := lowercase ++ uppercase ++ titleLetter

def isCased (c : Char) : Bool := cased.contains c

/-- The apostrophes, colons and full stops within words. -/
def midWord : Table := .ofText
  "27 2E 3A B7 387 55F 5F4 2018-2019 2024 2027 FE13 FE52 FE55 FF07 FF0E FF1A"

/-- The characters that are passed over when the case of their surroundings is asked for. -/
def caseIgnorable : Table :=
  midWord ++ nonspacingMark ++ enclosingMark ++ format ++ modifierLetter ++ modifierSymbol

def isCaseIgnorable (c : Char) : Bool := caseIgnorable.contains c

/-- The characters that continue a grapheme without being marks of no or enclosing width. -/
def otherGraphemeExtend : Table := .ofText
  "9BE 9D7 B3E B57 BBE BD7 CC0 CC2 CC7-CC8 CCA-CCB CD5-CD6 D3E D57 DCF DDF 1715 1734 1B35 1B3B
  1B3D 1B43-1B44 1BAA 1BF2-1BF3 200C 302E-302F A953 A9C0 FF9E-FF9F 111C0 11235 1133E 1134D 11357
  113B8 113C2 113C5 113C7-113C9 113CF 114B0 114BD 115AF 116B6 11930 1193D 11F41 16FF0-16FF1
  1D165-1D166 1D16D-1D172 E0020-E007F"

/-- The characters that continue a grapheme. -/
def graphemeExtend : Table := nonspacingMark ++ enclosingMark ++ otherGraphemeExtend

def isGraphemeExtend (c : Char) : Bool := graphemeExtend.contains c

/-- Characters that are seen on paper: letters, marks, numbers, punctuation and symbols. -/
def graphic : Table :=
  lowerLetter ++ upperLetter ++ otherLetter ++ modifierLetter ++ titleLetter ++ mark ++
    decimalNumber ++ letterNumber ++ otherNumber ++ connectorPunctuation ++ dashPunctuation ++
    openPunctuation ++ closePunctuation ++ initialPunctuation ++ finalPunctuation ++
    otherPunctuation ++ mathSymbol ++ currencySymbol ++ modifierSymbol ++ otherSymbol

/-- Whether a character can be printed as it is: a graphic character, or the plain space. -/
def isPrintable (c : Char) : Bool := c = ' ' || graphic.contains c

end DataSchema.Unicode
