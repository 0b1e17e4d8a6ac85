import SyntaxExplorer.Explorer.Frame
import SyntaxExplorer.Explorer.Highlight
import SyntaxExplorer.Text.Lines

/-!
# SyntaxExplorer.Explorer.SourceView

**The pane that shows the source text.** One line of the text is marked, and the
pane tries to keep it in the same row while the mark moves from line to line.
`SourceScroll.arrange` says what is shown: the wanted row is first limited to
the rows there are, then the first shown line follows from it, and last it is
limited so that no empty rows are shown below the text.
-/

namespace SyntaxExplorer

/-- The first line that is shown, counted from zero, and the row the marked line
is wanted in, once there is one. -/
structure SourceScroll where
  offset : Nat
  targetRow : Option Nat
  deriving Repr, DecidableEq

namespace SourceScroll

/-- Nothing has been shown yet. -/
def start : SourceScroll := ⟨0, none⟩

/-- The row of the marked line among `visible` rows: the wanted one if there is
such a row, else the last one; the middle one if none is wanted. -/
def row (scroll : SourceScroll) (visible : Nat) : Nat :=
  min (scroll.targetRow.getD (visible / 2)) (visible - 1)

/-- The first line to show so that the marked line stands in its row. A mark
outside the text leaves the text where it is. -/
def followedOffset (scroll : SourceScroll) (marked total row : Nat) : Nat :=
  if 0 < marked && marked ≤ total then marked - 1 - row else scroll.offset

/-- The scrolling with which a text of `total` lines is shown in `visible` rows,
where `marked` is the marked line, counted from one, or zero. -/
def arrange (scroll : SourceScroll) (marked total visible : Nat) : SourceScroll where
  offset := min (scroll.followedOffset marked total (scroll.row visible)) (total - visible)
  targetRow := some (scroll.row visible)

/-- The marked line is wanted further down: the text scrolls up. -/
def up (scroll : SourceScroll) (rows : Nat) : SourceScroll :=
  { scroll with targetRow := scroll.targetRow.map (· + rows) }

/-- The marked line is wanted further up: the text scrolls down. -/
def down (scroll : SourceScroll) (rows : Nat) : SourceScroll :=
  { scroll with targetRow := scroll.targetRow.map (· - rows) }

end SourceScroll

namespace SourceView

def title : String := " Source Code "

/-- A number at the right of at least four cells. -/
def padded (n : Nat) : String :=
  let digits := toString n
  "".pushn ' ' (4 - digits.length) ++ digits

/-- A line of the text behind its number, which is bright if the line is marked. -/
def numberedLine (text : List Char) (number : Nat) (isMarked : Bool) : Line :=
  let style :=
    if isMarked then (Style.ofColor Palette.secondary).emphasised else .ofColor Palette.comment
  let spans := highlight text
  .ofString (padded number ++ " ") style ::
    (if isMarked then spans.map (Span.on · Palette.currentLine) else spans)

/-- The lines that are shown from `offset` on. -/
def shownLines (text : Array (List Char)) (marked offset visible : Nat) : List Line :=
  (text.extract offset (offset + visible)).toList.zipIdx.map fun (line, i) =>
    numberedLine line (offset + i + 1) (offset + i + 1 = marked)

/-- Paint the pane; the answer is what was painted on and the scrolling it shows. -/
def drawWith {γ : Type} (paint : PanePainter γ) (canvas : γ) (area : Area)
    (text : Array (List Char)) (marked : Nat) (isFocused : Bool) (scroll : SourceScroll) :
    γ × SourceScroll :=
  let visible := Frame.visibleLines area.height
  let scroll := scroll.arrange marked text.size visible
  (paint canvas area title isFocused (shownLines text marked scroll.offset visible), scroll)

/-- Draw the pane on a screen. -/
def draw : Screen → Area → Array (List Char) → Nat → Bool → SourceScroll →
    Screen × SourceScroll :=
  drawWith Frame.draw

end SourceView

end SyntaxExplorer
