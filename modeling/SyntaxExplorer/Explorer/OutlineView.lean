import SyntaxExplorer.Explorer.Frame
import SyntaxExplorer.Node.Outline

/-!
# SyntaxExplorer.Explorer.OutlineView

**The pane that shows the outline of a program**, with a cursor in front of the
selected line. The shown part follows the selection no further than is needed to
keep it in view (`OutlineView.follow`).
-/

namespace SyntaxExplorer

/-- One line of the outline. -/
structure OutlineLine where
  depth : Nat
  kind : NodeKind
  payload? : Option String
  location : Location
  deriving Repr, DecidableEq

/-- The line of a node. -/
def OutlineLine.ofNode (n : Node) (depth : Nat) : OutlineLine :=
  ⟨depth, n.kind, n.payload?, n.location⟩

/-- The lines of the outline of a program. -/
def Program.outlineLines (p : Program) : Array OutlineLine :=
  p.visit (fun lines n depth => lines.push (.ofNode n depth)) #[]

namespace OutlineView

def title : String := " Syntax Tree "

/-- The first line to show among `visible` rows so that the selected line is
shown, starting from the first line shown before. -/
def follow (offset selected visible : Nat) : Nat :=
  if selected < offset then selected
  else if offset + visible ≤ selected then selected + 1 - visible
  else offset

/-- The spans of a line behind its cursor. -/
def content (line : OutlineLine) : Line :=
  [.ofString ("".pushn ' ' (2 * line.depth)) .plain,
    .ofString line.kind.label (.ofColor (Palette.ofKind line.kind))] ++
  match line.payload? with
  | some payload =>
    [.ofString ": " (.ofColor Palette.comment),
      .ofString payload (Style.ofColor Palette.text).emphasised]
  | none => []

/-- What stands in front of a line. -/
def cursor (isSelected : Bool) : Span :=
  if isSelected then .ofString "▶ " (.ofColor Palette.secondary) else .ofString "  " .plain

/-- A line as it is shown. -/
def shownLine (line : OutlineLine) (isSelected : Bool) : Line :=
  cursor isSelected ::
    (if isSelected then (content line).map (Span.on · Palette.currentLine) else content line)

/-- The lines that are shown from `offset` on. -/
def shownLines (lines : Array OutlineLine) (selected offset visible : Nat) : List Line :=
  (lines.extract offset (offset + visible)).toList.zipIdx.map fun (line, i) =>
    shownLine line (offset + i = selected)

/-- Paint the pane; the answer is what was painted on and the first line shown. -/
def drawWith {γ : Type} (paint : PanePainter γ) (canvas : γ) (area : Area)
    (lines : Array OutlineLine) (selected : Nat) (isFocused : Bool) (offset : Nat) : γ × Nat :=
  let visible := Frame.visibleLines area.height
  let offset := follow offset selected visible
  (paint canvas area title isFocused (shownLines lines selected offset visible), offset)

/-- Draw the pane on a screen. -/
def draw : Screen → Area → Array OutlineLine → Nat → Bool → Nat → Screen × Nat :=
  drawWith Frame.draw

end OutlineView

end SyntaxExplorer
