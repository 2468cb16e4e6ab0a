import DataSchema.Unicode.Property

/-!
# Text

Trimming, comparison without regard to ASCII case, and the quoted form in which messages show a
text that may hold anything.
-/

namespace DataSchema

namespace Text

/-- A text without the white space at its ends. -/
def trimChars (text : List Char) : List Char :=
  ((text.dropWhile Unicode.isWhitespace).reverse.dropWhile Unicode.isWhitespace).reverse

def trim (s : String) : String := String.ofList (trimChars s.toList)

/-- ASCII letters in lower case, all else kept. -/
def asciiLower (s : String) : String := s.map Char.toLower

/-- Whether two texts differ in the case of ASCII letters at most. -/
def sameButCase (s t : String) : Bool := asciiLower s == asciiLower t

/-- A character within quotes: escaped if it ends the quote, if it cannot be seen, or if it would
join the character before it. -/
def quotedChar (c : Char) : List Char :=
  match c with
  | '\x00' => ['\\', '0']
  | '\t' => ['\\', 't']
  | '\r' => ['\\', 'r']
  | '\n' => ['\\', 'n']
  | '\\' => ['\\', '\\']
  | '"' => ['\\', '"']
  | c =>
    if !Unicode.isGraphemeExtend c && Unicode.isPrintable c then [c]
    else ['\\', 'u', '\x7b'] ++ Nat.toDigits 16 c.toNat ++ ['\x7d']

/-- A text between double quotes. -/
def quoted (s : String) : String :=
  String.ofList ('"' :: s.toList.flatMap quotedChar ++ ['"'])

end Text

end DataSchema
