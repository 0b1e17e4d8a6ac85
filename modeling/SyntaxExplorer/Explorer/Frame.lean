import SyntaxExplorer.Explorer.Palette
import SyntaxExplorer.Screen

/-!
# SyntaxExplorer.Explorer.Frame

**The frame around a pane**: a border on the edge of its area, with the title of
the pane in the top row between the corners. The pane that has the focus has a
bright border. Inside, the lines of the pane fill the rows from the top.
-/

namespace SyntaxExplorer

/-- A way to paint a pane on something: into an area, with a title, as the pane that has the
focus or not, and with these lines from the top on. `Frame.draw` paints on a screen. -/
abbrev PanePainter (γ : Type) := γ → Area → String → Bool → List Line → γ

namespace Frame

/-- The look of a border and its title. -/
def borderStyle (isFocused : Bool) : Style :=
  if isFocused then (Style.ofColor Palette.focusedBorder).emphasised
  else .ofColor Palette.border

/-- The number of lines of a pane of this height. A pane without room for a line
still counts as one line high. -/
def visibleLines (height : Nat) : Nat := max 1 (height - 2)

/-- Draw a symbol in every row of a column. -/
def putColumn (s : Screen) (x y height : Nat) (symbol : Char) (style : Style) : Screen :=
  (List.range height).foldl (fun s i => s.put x (y + i) [symbol] style) s

/-- Draw a symbol in every column of a row. -/
def putRow (s : Screen) (x y width : Nat) (symbol : Char) (style : Style) : Screen :=
  (List.range width).foldl (fun s i => s.put (x + i) y [symbol] style) s

/-- Draw the border of an area. Where an area is one cell wide or high, its left
and its top side show. -/
def putBorder (s : Screen) (a : Area) (style : Style) : Screen :=
  let right := a.right - 1
  let bottom := a.bottom - 1
  let s := putColumn s a.x a.y a.height '│' style
  let s := putRow s a.x a.y a.width '─' style
  let s := putColumn s right a.y a.height '│' style
  let s := putRow s a.x bottom a.width '─' style
  let s := s.put right bottom ['┘'] style
  let s := s.put right a.y ['┐'] style
  let s := s.put a.x bottom ['└'] style
  s.put a.x a.y ['┌'] style

/-- Draw a pane: its frame, its title and its lines. Nothing is drawn outside
the screen, and the frame goes around the part of the area that is on it. -/
def draw (s : Screen) (area : Area) (title : String) (isFocused : Bool) (lines : List Line) :
    Screen :=
  let a := area.intersection s.area
  if a.isEmpty then s
  else
    let style := borderStyle isFocused
    let s := putBorder s a style
    let s := s.putLine (a.x + 1) a.y (a.width - 2) [.ofString title style]
    s.putLines a.inner lines

end Frame

end SyntaxExplorer
