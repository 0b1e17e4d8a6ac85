import SyntaxExplorer.Screen

/-!
# SyntaxExplorer.Screen.Display

**A display that is sent only what changes.** Frame after frame is drawn on an
empty screen, and a display is sent the cells that differ from those of the frame
before. The cell behind a wide symbol is never sent, since the symbol covers it,
so it keeps what was there; and where a wide symbol was or is, the cells that it
reached over are sent again.
-/

namespace SyntaxExplorer

/-- The cells a symbol takes. -/
def Cell.width (c : Cell) : Nat := Text.clusterWidth c.symbol

/-- A display: what it shows, and the frame that it was last given. -/
structure Display where
  shown : Screen
  frame : Screen

namespace Display

/-- A display that was given nothing yet. -/
def blank (width height : Nat) : Display := ⟨.blank width height, .blank width height⟩

/-- A cell in the last frame, in the next one and as it is shown. -/
structure Change where
  last : Cell
  next : Cell
  shown : Cell

/-- What the cells show after the next frame. The first one may be covered by the
symbol before it; so many of them, from the first one on, are sent even if they
did not change. -/
def sendFrom (isCovered : Bool) (again : Nat) : List Change → List Cell
  | [] => []
  | c :: cs =>
    let isSent := (c.next ≠ c.last || 0 < again) && !isCovered
    let reach := max (max c.next.width c.last.width) again
    (if isSent then c.next else c.shown) :: sendFrom (1 < c.next.width) (reach - 1) cs

/-- The cells of the display and of the next frame, one by one. -/
def changes (d : Display) (next : Screen) : List Change :=
  (((d.frame.cells.zip next.cells).zip d.shown.cells).map
    fun ((last, next), shown) => ⟨last, next, shown⟩).toList

/-- The display, ready for a frame of this size: it is cleared if its size changes. -/
def fit (d : Display) (width height : Nat) : Display :=
  if d.frame.width = width && d.frame.height = height then d else blank width height

/-- Give the display its next frame. -/
def present (d : Display) (next : Screen) : Display :=
  let d := d.fit next.width next.height
  ⟨{ next with cells := (sendFrom false 0 (d.changes next)).toArray }, next⟩

end Display

/-- What a display shows whose first frame this is. -/
def Screen.displayed (s : Screen) : Screen :=
  ((Display.blank s.width s.height).present s).shown

end SyntaxExplorer
