import SyntaxExplorer.Screen.Line

/-!
# SyntaxExplorer.Screen

**A grid of cells** that styled text is drawn on. Every cell starts as a space
without a style. Drawing replaces the symbols of cells and lays its style over
theirs, and whatever would fall outside the grid is not drawn.
-/

namespace SyntaxExplorer

structure Cell where
  symbol : List Char
  style : Style
  deriving Repr, DecidableEq

/-- A cell that nothing was drawn on. -/
def Cell.blank : Cell := ⟨[' '], .plain⟩

/-- A rectangle of cells. -/
structure Area where
  x : Nat
  y : Nat
  width : Nat
  height : Nat
  deriving Repr, DecidableEq

namespace Area

def right (a : Area) : Nat := a.x + a.width

def bottom (a : Area) : Nat := a.y + a.height

def isEmpty (a : Area) : Bool := a.width = 0 || a.height = 0

/-- What two areas have in common. -/
def intersection (a b : Area) : Area where
  x := max a.x b.x
  y := max a.y b.y
  width := min a.right b.right - max a.x b.x
  height := min a.bottom b.bottom - max a.y b.y

/-- The area without one cell on each side. -/
def inner (a : Area) : Area where
  x := a.x + 1
  y := a.y + 1
  width := a.width - 2
  height := a.height - 2

end Area

/-- The cells of a screen, row by row. -/
structure Screen where
  width : Nat
  height : Nat
  cells : Array Cell

namespace Screen

/-- A screen that nothing was drawn on. -/
def blank (width height : Nat) : Screen := ⟨width, height, .replicate (width * height) .blank⟩

/-- The whole screen. -/
def area (s : Screen) : Area := ⟨0, 0, s.width, s.height⟩

/-- Change the cell in this column and row. -/
def modify (s : Screen) (x y : Nat) (change : Cell → Cell) : Screen :=
  if x < s.width then { s with cells := s.cells.modify (y * s.width + x) change } else s

/-- Draw a symbol, its style over that of the cell. -/
def put (s : Screen) (x y : Nat) (symbol : List Char) (style : Style) : Screen :=
  s.modify x y fun cell => ⟨symbol, style.onTopOf cell.style⟩

/-- Lay a style over every cell of a row of an area. -/
def styleRow (s : Screen) (x y width : Nat) (style : Style) : Screen :=
  (List.range width).foldl
    (fun s i => s.modify (x + i) y fun cell => { cell with style := style.onTopOf cell.style }) s

/-- Lay a style over every cell of an area. -/
def styleArea (s : Screen) (a : Area) (style : Style) : Screen :=
  (List.range a.height).foldl (fun s i => s.styleRow a.x (a.y + i) a.width style) s

/-- Draw glyphs from a cell on, to the right. A glyph is drawn in its first cell,
and its other cells are left as they are. -/
def putGlyphs (s : Screen) (x y : Nat) : List Glyph → Screen
  | [] => s
  | g :: gs =>
    if g.width = 0 then s.putGlyphs x y gs
    else (s.put x y g.symbol g.style).putGlyphs (x + g.width) y gs

/-- Draw a line at the left of a row. -/
def putLine (s : Screen) (x y width : Nat) (line : Line) : Screen :=
  s.putGlyphs x y (line.glyphs width)

/-- Draw a line at the right of a row. -/
def putLineRight (s : Screen) (x y width : Nat) (line : Line) : Screen :=
  let glyphs := line.glyphs width
  s.putGlyphs (x + (width - Glyph.totalWidth glyphs)) y glyphs

/-- Draw lines from the top of an area on, as many as there is room for. -/
def putLines (s : Screen) (a : Area) (lines : List Line) : Screen :=
  ((lines.take a.height).zipIdx).foldl
    (fun s (line, i) => s.putLine a.x (a.y + i) a.width line) s

/-- The cells of a row, from left to right. -/
def row (s : Screen) (y : Nat) : List Cell :=
  (s.cells.extract (y * s.width) ((y + 1) * s.width)).toList

/-- The rows of the screen, from the top. -/
def rows (s : Screen) : List (List Cell) := (List.range s.height).map s.row

end Screen

end SyntaxExplorer
