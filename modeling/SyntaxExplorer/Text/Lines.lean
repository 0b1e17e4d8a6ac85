/-!
# SyntaxExplorer.Text.Lines

**The lines of a text.** A line ends at a line feed, and a carriage return right
in front of that line feed belongs to the end of the line. What follows the last
line feed is a line if there is anything.
-/

namespace SyntaxExplorer.Text

/-- The line that was read, the last character first, without a carriage return
at its end. -/
def closeLine : List Char → List Char
  | '\r' :: line => line.reverse
  | line => line.reverse

/-- Read on in the open line `line` (the last character first), behind the lines
`before` (the last one first). -/
def linesFrom (before : List (List Char)) (line : List Char) : List Char → List (List Char)
  | [] => (if line.isEmpty then before else line.reverse :: before).reverse
  | c :: cs =>
    if c = '\n' then linesFrom (closeLine line :: before) [] cs
    else linesFrom before (c :: line) cs

/-- The lines of a text, without their ends. -/
def lines (cs : List Char) : List (List Char) := linesFrom [] [] cs

end SyntaxExplorer.Text
