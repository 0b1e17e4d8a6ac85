import SyntaxExplorer.Explorer.Palette
import SyntaxExplorer.Screen

/-!
# SyntaxExplorer.Explorer.StatusLine

**The line below the panes**: on the left the position of the selection, its
kind and a message, on the right the keys. Each half cuts off at the right what
it has no room for.
-/

namespace SyntaxExplorer

/-- What the status line says. -/
structure StatusLine where
  message : String
  selected : Nat
  total : Nat
  /-- The kind of the selected node, if one is selected. -/
  kind? : Option NodeKind
  deriving Repr, DecidableEq

namespace StatusLine

/-- The look of the line where nothing is written. -/
def bar : Style := Style.plain.on Palette.currentLine

/-- Text on the line. -/
def barText (color : Color) : Style := (Style.ofColor color).on Palette.currentLine

/-- The left half. -/
def left (status : StatusLine) : Line :=
  [.ofString s!" Node {status.selected + 1}/{status.total} "
      ((Style.ofColor .black).on Palette.primary).emphasised,
    .ofString " | " (barText Palette.comment)] ++
  (match status.kind? with
    | some kind => [.ofString (kind.label ++ " ") (barText (Palette.ofKind kind)).emphasised]
    | none => []) ++
  [.ofString (" " ++ status.message ++ " ") (barText Palette.text)]

/-- A key and what it does. -/
def key (name description : String) : Line :=
  [.ofString name ((Style.ofColor .black).on Palette.comment),
    .ofString description (barText Palette.text)]

/-- What stands between two keys. -/
def separator : Line :=
  [.ofString "│" (barText Palette.comment), .ofString " " (barText Palette.text)]

/-- The right half. -/
def keys : Line :=
  key " ↑/↓ " " move " ++ separator ++ key " g/G " " start/end " ++ separator ++
    key " ⇥ " " focus " ++ separator ++ key "q" " quit "

/-- Draw the line in the first row of an area, the left half at the left of the
first half of the cells and the keys at the right of the others. -/
def draw (s : Screen) (area : Area) (status : StatusLine) : Screen :=
  let leftWidth := (area.width + 1) / 2
  let leftArea := { area with width := leftWidth }.intersection s.area
  let rightArea :=
    { area with x := area.x + leftWidth, width := area.width - leftWidth }.intersection s.area
  let s := s.styleArea leftArea bar
  let s := if leftArea.isEmpty then s else s.putLine leftArea.x leftArea.y leftArea.width status.left
  let s := s.styleArea rightArea bar
  if rightArea.isEmpty then s
  else s.putLineRight rightArea.x rightArea.y rightArea.width keys

end StatusLine

end SyntaxExplorer
