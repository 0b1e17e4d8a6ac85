import SyntaxExplorer.Explorer.Palette
import SyntaxExplorer.Screen.Line
import SyntaxExplorer.Text.Alphanumeric
import SyntaxExplorer.Token

/-!
# SyntaxExplorer.Explorer.Highlight

**Colouring one line of source text.** A line is read from left to right. A run
of letters, digits and underscores is a word, whose style depends on what it
is; a comment takes the rest of the line; a string literal goes up to its first
unescaped quote or, without one, to the end of the line; every other character
is a span of its own. No character is dropped on the way, so the spans together
are the line.

There are four ways for a word to end, and only two of them give it the style that
is meant for it (`pushStyledWord`): the end of the line, and a character that is
part of no word. A word that a comment or a string literal follows at once is put
down without any (`pushWord`), even if it is a reserved word that has its style
everywhere else.
-/

namespace SyntaxExplorer

namespace Highlight

/-- Letters, digits and underscores form words. -/
def isWordChar (c : Char) : Bool := Text.isAlphanumeric c || c == '_'

/-- The style of a word. A word in front of a parenthesis names a function. -/
def wordStyle (word : String) (isCalled : Bool) : Style :=
  match Keyword.ofSpelling? word with
  | some .int | some .char | some .void => .ofColor Palette.typeName
  | some _ => (Style.ofColor Palette.keyword).emphasised
  | none =>
    if word.toList.all Char.isDigit then .ofColor Palette.number
    else if isCalled then .ofColor Palette.function
    else .ofColor Palette.text

/-- The style of a character that is part of no word. -/
def charStyle (c : Char) : Style :=
  match c with
  | '{' | '}' | '(' | ')' => .ofColor Palette.primary
  | _ => .ofColor Palette.text

/-- Put a word, its last character first, on top of the spans before it. -/
def pushWord (word : List Char) (style : Style) (before : List Span) : List Span :=
  if word.isEmpty then before else ⟨word.reverse, style⟩ :: before

/-- The same, where the word is in front of `isCalled`, a parenthesis or not. -/
def pushStyledWord (word : List Char) (isCalled : Bool) (before : List Span) : List Span :=
  pushWord word (wordStyle (String.ofList word.reverse) isCalled) before

/-- Split what follows an opening quote behind the closing one, if there is one.
A backslash takes the character behind it along. The part read before is `read`,
the last character first. -/
def literalFrom (read : List Char) : List Char → List Char × List Char
  | [] => (read.reverse, [])
  | '"' :: cs => (('"' :: read).reverse, cs)
  | '\\' :: c :: cs => literalFrom (c :: '\\' :: read) cs
  | c :: cs => literalFrom (c :: read) cs

theorem literalFrom_append (read cs : List Char) :
    (literalFrom read cs).1 ++ (literalFrom read cs).2 = read.reverse ++ cs := by
  fun_induction literalFrom read cs <;> simp_all

theorem length_literalFrom_le (read cs : List Char) :
    (literalFrom read cs).2.length ≤ cs.length := by
  fun_induction literalFrom read cs <;> simp_all <;> omega

/-- Read on behind the spans `before` (the last one first) and the open word
`word` (the last character first). -/
def spansFrom (before : List Span) (word : List Char) : List Char → List Span
  | [] => (pushStyledWord word false before).reverse
  | '/' :: '/' :: cs =>
    (⟨'/' :: '/' :: cs, .ofColor Palette.comment⟩ :: pushWord word .plain before).reverse
  | '"' :: cs =>
    let literal := literalFrom ['"'] cs
    spansFrom (⟨literal.1, .ofColor Palette.stringLiteral⟩ :: pushWord word .plain before) []
      literal.2
  | c :: cs =>
    if isWordChar c then spansFrom before (c :: word) cs
    else spansFrom (⟨[c], charStyle c⟩ :: pushStyledWord word (c == '(') before) [] cs
termination_by cs => cs.length
decreasing_by
  · exact Nat.lt_succ_of_le (length_literalFrom_le _ cs)
  · simp
  · simp

end Highlight

/-- The spans of a line of source text. -/
def highlight (line : List Char) : Line := Highlight.spansFrom [] [] line

end SyntaxExplorer
