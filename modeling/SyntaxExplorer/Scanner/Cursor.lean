import SyntaxExplorer.Location

/-!
# SyntaxExplorer.Scanner.Cursor

**A place in a text that is being read**: the characters not read yet and the
location of the first of them. A cursor only moves forward, over characters it
then never sees again, so the length of the rest bounds every loop that reads
at least one character a turn.
-/

namespace SyntaxExplorer

/-- What is left of a text, and where it starts. -/
structure Cursor where
  rest : List Char
  location : Location
  deriving Repr, DecidableEq

namespace Cursor

/-- The cursor in front of the whole text. -/
def ofText (text : String) : Cursor := ⟨text.toList, .start⟩

/-- The cursor behind the characters `cs`, where `rest` follows. -/
def behind (here : Location) (cs rest : List Char) : Cursor := ⟨rest, here.past cs⟩

/-- The cursor at the end of the text. -/
def atEnd (c : Cursor) : Cursor := ⟨[], c.location.past c.rest⟩

/-- The longest run of characters with the property, and the cursor behind it. -/
def run (p : Char → Bool) (c : Cursor) : List Char × Cursor :=
  (c.rest.takeWhile p, behind c.location (c.rest.takeWhile p) (c.rest.dropWhile p))

end Cursor

end SyntaxExplorer
