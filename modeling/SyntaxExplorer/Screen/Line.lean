import SyntaxExplorer.Screen.Style
import SyntaxExplorer.Text.Cluster
import SyntaxExplorer.Text.Width

/-!
# SyntaxExplorer.Screen.Line

**A line of styled text**, as spans, and what of it fits into a row of cells.
Text is cut into clusters span by span. A cluster without a width is dropped,
one that is wider than the whole row as well, and the first one that does not
fit any more ends the row.
-/

namespace SyntaxExplorer

/-- A piece of text in one style. -/
structure Span where
  content : List Char
  style : Style
  deriving Repr, DecidableEq

namespace Span

def ofString (content : String) (style : Style) : Span := ⟨content.toList, style⟩

/-- The span on a background. -/
def on (s : Span) (background : Color) : Span := { s with style := s.style.on background }

end Span

/-- A line of spans, from left to right. -/
abbrev Line := List Span

/-- The text of a line. -/
def Line.text (line : Line) : List Char := line.flatMap Span.content

/-- A cluster, as wide as it is shown. -/
structure Glyph where
  symbol : List Char
  width : Nat
  style : Style
  deriving Repr, DecidableEq

namespace Glyph

/-- The clusters of a span. -/
def ofSpan (s : Span) : List Glyph :=
  (Text.clusters s.content).map fun cluster => ⟨cluster, Text.clusterWidth cluster, s.style⟩

/-- The glyphs that fit into `room` more cells of a row of `width` cells. -/
def fitting (width room : Nat) : List Glyph → List Glyph
  | [] => []
  | g :: gs =>
    if width < g.width then fitting width room gs
    else if room < g.width then []
    else g :: fitting width (room - g.width) gs

/-- The cells that a list of glyphs takes. -/
def totalWidth : List Glyph → Nat
  | [] => 0
  | g :: gs => g.width + totalWidth gs

end Glyph

/-- What of a line fits into a row of cells. -/
def Line.glyphs (line : Line) (width : Nat) : List Glyph :=
  Glyph.fitting width width (line.flatMap Glyph.ofSpan)

end SyntaxExplorer
