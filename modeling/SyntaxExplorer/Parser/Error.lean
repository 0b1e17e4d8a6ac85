import SyntaxExplorer.Scanner.Error
import SyntaxExplorer.Token

/-!
# SyntaxExplorer.Parser.Error

**Why a sequence of tokens is not a program**, and where. An analysis stops at
the first token that cannot follow, so an error names that token and what the
grammar wants in its place (`Expectation`). The two other causes are nesting
that is too deep and a text that fails to continue with a token.
-/

namespace SyntaxExplorer

/-- How many parenthesised expressions and statement blocks, counted together,
may enclose a place. Function bodies do not count. -/
def maxNesting : Nat := 128

/-- The statements that own a block. -/
inductive BlockKind
  | ifBlock | elseBlock | whileBlock
  deriving Repr, DecidableEq

def BlockKind.keyword : BlockKind → String
  | ifBlock => "if"
  | elseBlock => "else"
  | whileBlock => "while"

/-- What the grammar wants at a place. -/
inductive Expectation
  | type
  | identifier
  | openParenAfterName
  | closeParenAfterParams
  | openBraceBeforeBody
  | statement
  | semicolonAfterDeclaration
  | assignAfterTarget
  | semicolonAfterAssignment
  | openParenAfterIf
  | closeParenAfterIf
  | openParenAfterWhile
  | closeParenAfterWhile
  | openBraceOf (kind : BlockKind)
  | semicolonAfterReturn
  | expression
  | closeParenOfExpression
  deriving Repr, DecidableEq

def Expectation.text : Expectation → String
  | type => "type"
  | identifier => "identifier"
  | openParenAfterName => "'(' after function name"
  | closeParenAfterParams => "')' after parameters"
  | openBraceBeforeBody => "'\x7b' before function body"
  | statement => "statement"
  | semicolonAfterDeclaration => "';' after declaration"
  | assignAfterTarget => "'=' after assignment target"
  | semicolonAfterAssignment => "';' after assignment"
  | openParenAfterIf => "'(' after 'if'"
  | closeParenAfterIf => "')' after if condition"
  | openParenAfterWhile => "'(' after 'while'"
  | closeParenAfterWhile => "')' after while condition"
  | openBraceOf kind => "'\x7b' to open '" ++ kind.keyword ++ "' body"
  | semicolonAfterReturn => "';' after return"
  | expression => "expression"
  | closeParenOfExpression => "')' to close parenthesized expression"

inductive SyntaxFault
  /-- The grammar wants something else than the lexeme that stands here. -/
  | unexpected (found : Lexeme) (expected : Expectation)
  /-- One level more than `maxNesting` would open here. -/
  | tooDeep
  /-- There is no token here. -/
  | scan (fault : ScanFault)
  deriving Repr, DecidableEq

def SyntaxFault.message : SyntaxFault → String
  | unexpected found expected => s!"unexpected {found.text}, expected {expected.text}"
  | tooDeep => s!"memory exhausted: more than {maxNesting} nested levels"
  | scan fault => fault.message

/-- A fault and the location it is reported at. -/
structure SyntaxError where
  fault : SyntaxFault
  location : Location
  deriving Repr, DecidableEq

namespace SyntaxError

/-- A text without a next token is no program, for the same reason and at the
same place. -/
def ofScanError (e : ScanError) : SyntaxError := ⟨.scan e.fault, e.location⟩

def message (e : SyntaxError) : String := e.fault.message

/-- The error for a reader: where it is, and the message. -/
def text (e : SyntaxError) : String :=
  s!"syntax error at {e.location.text}: {e.message}"

end SyntaxError

end SyntaxExplorer
