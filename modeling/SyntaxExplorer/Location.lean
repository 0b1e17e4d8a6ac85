/-!
# SyntaxExplorer.Location

**Where something stands in a source text**: a line and a column, both counted
from one. Only a line feed starts a new line, and every other character, a tab
or a carriage return included, moves one column to the right.

`Location.past` is the location reached after a run of characters. It composes
along concatenation (`Location.past_append`), which is what lets a scanner
carry a location instead of counting from the start of the text.
-/

namespace SyntaxExplorer

/-- A place in a source text. -/
structure Location where
  line : Nat
  column : Nat
  deriving Repr, DecidableEq, Inhabited

namespace Location

/-- The first character of every text stands here. -/
def start : Location := ⟨1, 1⟩

/-- Vacated operands are located here, which no text contains. -/
def nowhere : Location := ⟨0, 0⟩

/-- The location of the character after `c`, when `c` stands at `here`. -/
def step (here : Location) (c : Char) : Location :=
  if c = '\n' then ⟨here.line + 1, 1⟩ else ⟨here.line, here.column + 1⟩

/-- The location reached after all of `cs`. -/
def past (here : Location) (cs : List Char) : Location :=
  cs.foldl step here

@[simp] theorem past_nil (here : Location) : here.past [] = here := rfl

@[simp] theorem past_cons (here : Location) (c : Char) (cs : List Char) :
    here.past (c :: cs) = (here.step c).past cs := rfl

theorem past_append (here : Location) (cs ds : List Char) :
    here.past (cs ++ ds) = (here.past cs).past ds := by
  simp [past]

/-- The wording of a location in messages. -/
def text (here : Location) : String :=
  s!"line {here.line}, column {here.column}"

end Location

end SyntaxExplorer
