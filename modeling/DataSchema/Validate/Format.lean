import DataSchema.Regex.Reading
import DataSchema.Schema

/-!
# Formats of texts

A text is in a format if the pattern of the format matches it. The patterns say that they match from
the start of a text to its end.
-/

namespace DataSchema

namespace StringFormat

def ipv4Pattern : String :=
  "^((25[0-5]|2[0-4][0-9]|[01]?[0-9][0-9]?)\\.)\x7b3\x7d" ++
    "(25[0-5]|2[0-4][0-9]|[01]?[0-9][0-9]?)$"

/-- The forms of an address, one in a line as far as it fits. -/
def ipv6Pattern : String :=
  "^(([0-9a-fA-F]\x7b1,4\x7d:)\x7b7,7\x7d[0-9a-fA-F]\x7b1,4\x7d|" ++
    "([0-9a-fA-F]\x7b1,4\x7d:)\x7b1,7\x7d:|" ++
    "([0-9a-fA-F]\x7b1,4\x7d:)\x7b1,6\x7d:[0-9a-fA-F]\x7b1,4\x7d|" ++
    "([0-9a-fA-F]\x7b1,4\x7d:)\x7b1,5\x7d(:[0-9a-fA-F]\x7b1,4\x7d)\x7b1,2\x7d|" ++
    "([0-9a-fA-F]\x7b1,4\x7d:)\x7b1,4\x7d(:[0-9a-fA-F]\x7b1,4\x7d)\x7b1,3\x7d|" ++
    "([0-9a-fA-F]\x7b1,4\x7d:)\x7b1,3\x7d(:[0-9a-fA-F]\x7b1,4\x7d)\x7b1,4\x7d|" ++
    "([0-9a-fA-F]\x7b1,4\x7d:)\x7b1,2\x7d(:[0-9a-fA-F]\x7b1,4\x7d)\x7b1,5\x7d|" ++
    "[0-9a-fA-F]\x7b1,4\x7d:((:[0-9a-fA-F]\x7b1,4\x7d)\x7b1,6\x7d)|" ++
    ":((:[0-9a-fA-F]\x7b1,4\x7d)\x7b1,7\x7d|:)|" ++
    "fe80:(:[0-9a-fA-F]\x7b0,4\x7d)\x7b0,4\x7d%[0-9a-zA-Z]\x7b1,\x7d|" ++
    "::(ffff(:0\x7b1,4\x7d)\x7b0,1\x7d:)\x7b0,1\x7d" ++
    "((25[0-5]|(2[0-4]|1\x7b0,1\x7d[0-9])\x7b0,1\x7d[0-9])\\.)\x7b3,3\x7d" ++
    "(25[0-5]|(2[0-4]|1\x7b0,1\x7d[0-9])\x7b0,1\x7d[0-9])|" ++
    "([0-9a-fA-F]\x7b1,4\x7d:)\x7b1,4\x7d:" ++
    "((25[0-5]|(2[0-4]|1\x7b0,1\x7d[0-9])\x7b0,1\x7d[0-9])\\.)\x7b3,3\x7d" ++
    "(25[0-5]|(2[0-4]|1\x7b0,1\x7d[0-9])\x7b0,1\x7d[0-9]))$"

def emailPattern : String :=
  "^[a-z0-9!#$%&'*+/=?^_`\x7b|\x7d~-]+(?:\\.[a-z0-9!#$%&'*+/=?^_`\x7b|\x7d~-]+)*@" ++
    "(?:[a-z0-9](?:[a-z0-9-]*[a-z0-9])?\\.)+[a-z0-9](?:[a-z0-9-]*[a-z0-9])?$"

def pattern : StringFormat → String
  | .email => emailPattern
  | .ipv4 => ipv4Pattern
  | .ipv6 => ipv6Pattern

/-- The regular expression of a format, if its pattern is one. -/
def regex? (f : StringFormat) : Option Regex := (Regex.parse f.pattern).toOption

def accepts (f : StringFormat) (text : String) : Bool := f.regex?.any (·.isMatch text)

end StringFormat

end DataSchema
