import SyntaxExplorer.Node.Outline
import SyntaxExplorer.Output.Sink

/-!
# SyntaxExplorer.Output.Writing

**Writing the outline of a program into a sink**, piece by piece as it is written
anywhere (`Program.writeLines`), and passing it on at the end. The first failure ends
the writing: nothing more is offered to the sink, which is not flushed either.
-/

namespace SyntaxExplorer

variable {ω ε : Type} [Sink ω ε] [Failure ε]

/-- A writer of texts into a sink, and what came of the writing so far. -/
structure SinkWriter (ω ε : Type) where
  patience : Nat
  written : Written ω ε

/-- A writer that has written nothing yet. -/
def SinkWriter.ofSink (patience : Nat) (sink : ω) : SinkWriter ω ε :=
  ⟨patience, some (.ok (), sink)⟩

/-- Texts are written into a sink as UTF-8. -/
instance : TextWriter (SinkWriter ω ε) where
  put writer text :=
    match writer.written with
    | some (.ok (), sink) =>
      { writer with written := Sink.writeAll writer.patience sink text.toUTF8 }
    | _ => writer
  isOpen writer :=
    match writer.written with
    | some (.ok (), _) => true
    | _ => false

/-- Flush the sink, unless it failed. -/
def Written.flush : Written ω ε → Written ω ε
  | some (.ok (), sink) => some (Sink.flush sink)
  | failed => failed

/-- Write the outline of a program and flush the sink. -/
def Program.writeTo (p : Program) (indent patience : Nat) (sink : ω) : Written ω ε :=
  (p.writeLines indent (SinkWriter.ofSink patience sink)).written.flush

/-- `Program.writeTo` for a sink that is never interrupted. No patience is needed there, and
what stands for no answer is never the answer. -/
def Program.write [Failure.IsFinal ε] (p : Program) (indent : Nat) (sink : ω) :
    Except ε Unit × ω :=
  (p.writeTo indent 0 sink).getD (.error Failure.stalled, sink)

end SyntaxExplorer
