/-!
# SyntaxExplorer.Output.TextWriter

**Somewhere texts are written one behind the other.** A longer text is handed to a
writer piece by piece (`TextWriter.write`), until all pieces are written or one of them
could not be: then the writer is not open any more, and it is left alone. A `String` is
a writer that takes every text.
-/

namespace SyntaxExplorer

/-- A writer of texts. -/
class TextWriter (τ : Type) where
  /-- Write a text behind those that were written. -/
  put : τ → String → τ
  /-- All texts could be written. -/
  isOpen : τ → Bool

instance : TextWriter String where
  put written text := written ++ text
  isOpen _ := true

namespace TextWriter

variable {τ : Type} [TextWriter τ]

/-- Write a text, unless one could not be written before. -/
def write (writer : τ) (text : String) : τ := if isOpen writer then put writer text else writer

/-- Write texts one behind the other, up to the first one that cannot be written. -/
def writeTexts (writer : τ) (texts : List String) : τ := texts.foldl write writer

/-- That many spaces. -/
def spaces (n : Nat) : String := "".pushn ' ' n

/-- Write a number of spaces, at most `width` of them at a time. -/
def writeSpaces (writer : τ) (width n : Nat) : τ :=
  if n = 0 then writer
  else if isOpen writer then
    let chunk := max 1 (min n width)
    writeSpaces (put writer (spaces chunk)) width (n - chunk)
  else writer
termination_by n

end TextWriter

end SyntaxExplorer
