import SyntaxExplorer.Location
import SyntaxExplorer.Text.Quoted

/-!
# SyntaxExplorer.Token

**The terminals of the language**. A token is a `Lexeme`, what was written,
together with the location of its first character. Only numbers, identifiers and
string literals carry a payload; a `Terminal` is what remains of a lexeme when
the payload is forgotten, and it is all that the grammar sees.
-/

namespace SyntaxExplorer

/-- The reserved words. -/
inductive Keyword
  | int | char | void | ifWord | elseWord | whileWord | forWord | returnWord
  deriving Repr, DecidableEq

namespace Keyword

/-- Every reserved word. -/
def all : List Keyword :=
  [int, char, void, ifWord, elseWord, whileWord, forWord, returnWord]

def spelling : Keyword → String
  | int => "int"
  | char => "char"
  | void => "void"
  | ifWord => "if"
  | elseWord => "else"
  | whileWord => "while"
  | forWord => "for"
  | returnWord => "return"

/-- The reserved word with this spelling. -/
def ofSpelling? : String → Option Keyword
  | "int" => some int
  | "char" => some char
  | "void" => some void
  | "if" => some ifWord
  | "else" => some elseWord
  | "while" => some whileWord
  | "for" => some forWord
  | "return" => some returnWord
  | _ => none

@[simp] theorem ofSpelling?_spelling (k : Keyword) : ofSpelling? k.spelling = some k := by
  cases k <;> rfl

end Keyword

/-- Operators and punctuation. -/
inductive Symbol
  | plus | minus | star | slash | percent
  | assign | equal | notEqual | less | greater | lessEqual | greaterEqual
  | andAnd | orOr | bang | ampersand
  | openParen | closeParen | openBrace | closeBrace | semicolon | comma
  deriving Repr, DecidableEq

namespace Symbol

/-- Every operator and punctuation mark. -/
def all : List Symbol :=
  [plus, minus, star, slash, percent,
    assign, equal, notEqual, less, greater, lessEqual, greaterEqual,
    andAnd, orOr, bang, ampersand,
    openParen, closeParen, openBrace, closeBrace, semicolon, comma]

def spelling : Symbol → String
  | plus => "+"
  | minus => "-"
  | star => "*"
  | slash => "/"
  | percent => "%"
  | assign => "="
  | equal => "=="
  | notEqual => "!="
  | less => "<"
  | greater => ">"
  | lessEqual => "<="
  | greaterEqual => ">="
  | andAnd => "&&"
  | orOr => "||"
  | bang => "!"
  | ampersand => "&"
  | openParen => "("
  | closeParen => ")"
  | openBrace => "\x7b"
  | closeBrace => "\x7d"
  | semicolon => ";"
  | comma => ","

end Symbol

/-- The class of a lexeme, which is all that the grammar looks at. -/
inductive Terminal
  | number
  | identifier
  | stringLiteral
  | keyword (k : Keyword)
  | symbol (s : Symbol)
  | endOfFile
  deriving Repr, DecidableEq

/-- What stands at one place of a source text. -/
inductive Lexeme
  | number (value : Int)
  | identifier (name : String)
  | stringLiteral (contents : String)
  | keyword (k : Keyword)
  | symbol (s : Symbol)
  | endOfFile
  deriving Repr, DecidableEq

namespace Lexeme

def terminal : Lexeme → Terminal
  | number _ => .number
  | identifier _ => .identifier
  | stringLiteral _ => .stringLiteral
  | keyword k => .keyword k
  | symbol s => .symbol s
  | endOfFile => .endOfFile

/-- The wording of a lexeme, where the characters of a string literal are written in
some way. -/
def textWith (escape : Char → String) : Lexeme → String
  | number value => s!"number {value}"
  | identifier name => s!"identifier '{name}'"
  | stringLiteral contents => "string literal " ++ Text.quotedWith escape contents
  | keyword k => "'" ++ k.spelling ++ "'"
  | symbol s => "'" ++ s.spelling ++ "'"
  | endOfFile => "end of file"

/-- The wording of a lexeme in messages and listings. A string literal is shown
escaped, so that the wording is one line; identifiers hold nothing to escape. -/
def text (l : Lexeme) : String := l.textWith Text.escapeChar

end Lexeme

/-- A lexeme and the location of its first character. The end of the text is a
token as well. -/
structure Token where
  lexeme : Lexeme
  location : Location
  deriving Repr, DecidableEq

namespace Token

/-- Is this the end of the text? -/
def isEnd (t : Token) : Bool :=
  match t.lexeme with
  | .endOfFile => true
  | _ => false

/-- Are the two tokens the same terminal, whatever their payloads and locations? -/
def sameKind (t u : Token) : Bool := t.lexeme.terminal == u.lexeme.terminal

/-- The wording of a token in messages and listings. -/
def text (t : Token) : String := t.lexeme.text

end Token

end SyntaxExplorer
