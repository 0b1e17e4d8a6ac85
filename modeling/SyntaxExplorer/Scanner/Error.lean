import SyntaxExplorer.Location

/-!
# SyntaxExplorer.Scanner.Error

**Why a text has no next token**, and where. The faults are causes; their
wording is `ScanFault.message` and nothing else.
-/

namespace SyntaxExplorer

/-- The ways in which a text can fail to continue with a token. -/
inductive ScanFault
  /-- No token starts with this character. -/
  | unexpectedCharacter (c : Char)
  /-- A run of digits whose value does not fit a signed 64-bit number. -/
  | integerOutOfRange (digits : String)
  /-- A string literal whose closing quote is missing. -/
  | unterminatedString
  /-- A text that ends right behind a backslash in a string literal. -/
  | endInsideString
  /-- A backslash in a string literal before a character it cannot escape. -/
  | unknownEscape (c : Char)
  /-- A block comment whose closing mark is missing. -/
  | unterminatedComment
  deriving Repr, DecidableEq

def ScanFault.message : ScanFault → String
  | unexpectedCharacter c => s!"Unexpected character: '{c}'"
  | integerOutOfRange digits => s!"Integer literal out of range: {digits}"
  | unterminatedString => "Unterminated string literal"
  | endInsideString => "Unexpected end of file in string literal"
  | unknownEscape c => "Unknown escape sequence: \\" ++ String.singleton c
  | unterminatedComment => "Unterminated block comment"

/-- A fault and the location it is reported at. -/
structure ScanError where
  fault : ScanFault
  location : Location
  deriving Repr, DecidableEq

namespace ScanError

def message (e : ScanError) : String := e.fault.message

/-- The error for a reader: where it is, and the message. -/
def text (e : ScanError) : String :=
  s!"lexical error at {e.location.text}: {e.message}"

end ScanError

end SyntaxExplorer
