import SyntaxExplorer.Node.Walk
import SyntaxExplorer.Output.TextWriter

/-!
# SyntaxExplorer.Node.Outline

**A program as indented lines**, one for each node, in the order of the walk: the
label of its kind and, if it has one, its payload behind a colon.

    function: add
      type: int
      param: a
        type: int
    return
      binary-op: +
        id: a
        number: 1

A level is indented by any number of spaces up to the greatest 64-bit number,
where the indentation of deeper levels stays. Wherever an outline is written, into a
text or into a sink, its lines are written in the same pieces (`Program.writeLines`).
-/

namespace SyntaxExplorer

namespace Outline

/-- The spaces of a level unless something else is asked for. -/
def defaultIndent : Nat := 2

/-- The greatest indentation of a line. -/
def maxIndentation : Nat := Nat.pow 2 64 - 1

/-- The spaces in front of a line at this depth. -/
def indentation (indent depth : Nat) : Nat := min (depth * indent) maxIndentation

/-- The most spaces that are written at a time. -/
def chunkWidth : Nat := 32

/-- The pieces in which the line of a node is written behind its indentation. -/
def pieces (n : Node) : List String :=
  match n.payload? with
  | some payload => [n.kind.label, ": ", payload, "\n"]
  | none => [n.kind.label, "\n"]

/-- Write the line of a node. -/
def writeLine {τ : Type} [TextWriter τ] (indent : Nat) (writer : τ) (n : Node) (depth : Nat) : τ :=
  TextWriter.writeTexts
    (TextWriter.writeSpaces writer chunkWidth (indentation indent depth)) (pieces n)

end Outline

namespace Program

/-- Write the lines of a program. -/
def writeLines {τ : Type} [TextWriter τ] (p : Program) (indent : Nat) (writer : τ) : τ :=
  p.visit (Outline.writeLine indent) writer

/-- The outline of a program. -/
def outline (p : Program) (indent : Nat) : String := p.writeLines indent ""

/-- A program is shown as its outline with the default indentation. -/
instance : ToString Program := ⟨fun p => p.outline Outline.defaultIndent⟩

end Program

end SyntaxExplorer
