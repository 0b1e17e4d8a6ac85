import SyntaxExplorer.Explorer.OutlineView
import SyntaxExplorer.Explorer.SourceView
import SyntaxExplorer.Explorer.StatusLine
import SyntaxExplorer.Screen.Display

/-!
# SyntaxExplorer.Explorer

**Walking through a program beside its source text.** The explorer shows the
text, the outline of the program and a status line. One line of the outline is
selected, and the line of the text where its node stands is marked.

Keys move the selection or, while the text has the focus, the row in which the
marked line is wanted; drawing then brings what is shown in line with them. The
program itself never changes.
-/

namespace SyntaxExplorer

/-- The pane that the arrow keys act on. -/
inductive Focus
  | source | outline
  deriving Repr, DecidableEq

/-- The other pane. -/
def Focus.next : Focus → Focus
  | source => outline
  | outline => source

/-- The keys that are told apart. -/
inductive Key
  | character (c : Char)
  | up | down | pageUp | pageDown
  | home | endKey
  | tab | backTab
  | escape
  /-- Any key that never has a meaning. -/
  | other
  deriving Repr, DecidableEq

/-- What a key asks for. -/
inductive Action
  | quit
  | switchFocus
  /-- Move up or down by so many lines. -/
  | moveUp (lines : Nat)
  | moveDown (lines : Nat)
  | selectFirst
  | selectLast
  | nothing
  deriving Repr, DecidableEq

/-- The lines that a page moves. -/
def Key.pageSize : Nat := 10

def Key.action : Key → Action
  | character 'q' | character 'Q' | escape => .quit
  | tab | backTab => .switchFocus
  | up | character 'k' => .moveUp 1
  | down | character 'j' => .moveDown 1
  | pageUp => .moveUp pageSize
  | pageDown => .moveDown pageSize
  | home | character 'g' => .selectFirst
  | endKey | character 'G' => .selectLast
  | character _ | other => .nothing

structure Explorer where
  program : Program
  /-- The source text. -/
  text : String
  /-- The outline of the program. -/
  lines : Array OutlineLine
  selected : Nat
  focus : Focus
  sourceScroll : SourceScroll
  /-- The first line of the outline that is shown. -/
  outlineOffset : Nat
  isQuitting : Bool
  status : String

namespace Explorer

/-- An explorer that nothing was done in. -/
def ofProgram (p : Program) (source : String) : Explorer where
  program := p
  text := source
  lines := p.outlineLines
  selected := 0
  focus := .outline
  sourceScroll := .start
  outlineOffset := 0
  isQuitting := false
  status := "Ready!"

/-- The lines of the source text. -/
def sourceLines (e : Explorer) : Array (List Char) := (Text.lines e.text.toList).toArray

def selectedLine? (e : Explorer) : Option OutlineLine := e.lines[e.selected]?

/-- The marked line of the source text, counted from one; zero marks none. -/
def markedLine (e : Explorer) : Nat :=
  match e.selectedLine? with
  | some line => line.location.line
  | none => 0

/-! ### Keys -/

/-- Select a line, or the last one if there is no such line. -/
def select (e : Explorer) (index : Nat) : Explorer :=
  match e.lines[min index (e.lines.size - 1)]? with
  | some line =>
    { e with
      selected := min index (e.lines.size - 1)
      status := line.kind.label ++ " at " ++ line.location.text }
  | none => e

/-- Move up: the selection, or the text below the marked line. -/
def moveUp (e : Explorer) (n : Nat) : Explorer :=
  match e.focus with
  | .source => { e with sourceScroll := e.sourceScroll.up n }
  | .outline => e.select (e.selected - n)

/-- Move down: the selection, or the text below the marked line. -/
def moveDown (e : Explorer) (n : Nat) : Explorer :=
  match e.focus with
  | .source => { e with sourceScroll := e.sourceScroll.down n }
  | .outline => e.select (e.selected + n)

/-- Do what was asked for. -/
def perform (e : Explorer) : Action → Explorer
  | .quit => { e with isQuitting := true }
  | .switchFocus => { e with focus := e.focus.next }
  | .moveUp n => e.moveUp n
  | .moveDown n => e.moveDown n
  | .selectFirst => e.select 0
  | .selectLast => e.select (e.lines.size - 1)
  | .nothing => e

/-- What a key does. -/
def press (e : Explorer) (key : Key) : Explorer := e.perform key.action

/-! ### Drawing -/

/-- Where the parts of the explorer are on a screen: the source text, the
outline and, in the last row, the status line. -/
structure Layout where
  source : Area
  outline : Area
  status : Area
  deriving Repr, DecidableEq

namespace Layout

/-- The source text takes 55 of 100 columns. -/
def sourceWidth (width : Nat) : Nat := (55 * width + 50) / 100

def ofSize (width height : Nat) : Layout where
  source := ⟨0, 0, sourceWidth width, height - 1⟩
  outline := ⟨sourceWidth width, 0, width - sourceWidth width, height - 1⟩
  status := ⟨0, height - 1, width, min height 1⟩

end Layout

/-- What the status line says. -/
def statusLine (e : Explorer) : StatusLine :=
  ⟨e.status, e.selected, e.lines.size, e.selectedLine?.map OutlineLine.kind⟩

/-- A way to paint the parts of an explorer on something. -/
structure Painter (γ : Type) where
  pane : PanePainter γ
  statusLine : γ → Area → StatusLine → γ

/-- Paint on the cells of a screen. -/
def Painter.onScreen : Painter Screen := ⟨Frame.draw, StatusLine.draw⟩

/-- Paint everything where the layout has it; the answer is what was painted on and the
explorer, scrolled as it is shown. -/
def drawWith {γ : Type} (e : Explorer) (painter : Painter γ) (layout : Layout) (canvas : γ) :
    γ × Explorer :=
  let (canvas, sourceScroll) := SourceView.drawWith painter.pane canvas layout.source
    e.sourceLines e.markedLine (e.focus = .source) e.sourceScroll
  let (canvas, outlineOffset) := OutlineView.drawWith painter.pane canvas layout.outline e.lines
    e.selected (e.focus = .outline) e.outlineOffset
  (painter.statusLine canvas layout.status e.statusLine, { e with sourceScroll, outlineOffset })

/-- Draw everything on an empty screen of this size. -/
def draw (e : Explorer) (width height : Nat) : Screen × Explorer :=
  e.drawWith .onScreen (.ofSize width height) (.blank width height)

/-- Draw everything on a display, which takes the size asked for. -/
def drawOn (e : Explorer) (d : Display) (width height : Nat) : Display × Explorer :=
  let (frame, e) := e.draw width height
  (d.present frame, e)

end Explorer

end SyntaxExplorer
