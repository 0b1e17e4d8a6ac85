import SyntaxExplorer.Parser.Progress
import SyntaxExplorer.Token.Source

/-!
# SyntaxExplorer.Parser

**Reading programs from a token source.** A parser holds its source and one
token of it, the lookahead, and counts the levels that are open. Every decision is
made on these alone: a token that belongs to the program is replaced by the next
one, a token that cannot follow stays where it is, and so does the end of the text.
The count goes up where a level opens and down where it is left, be it behind its
last token or with an error. Hence a parser can be asked for a program again,
whatever the first answer was.

The source is asked for a token only after the one before it has been used, so
an error in the text never hides a wrong token in front of it.
-/

namespace SyntaxExplorer

namespace Progress

/-- The end of the text is never part of a program. -/
theorem isEnd_eq_false_of_advance {limit depth : Nat} {p q : Progress} {t : Token}
    (h : p.advance limit depth t = .shift q) : t.isEnd = false := by
  obtain ⟨lexeme, here⟩ := t
  cases lexeme <;> first | rfl | skip
  obtain ⟨before, stage⟩ := p
  cases stage <;>
    simp [advance, TypeName.ofLexeme?, move, Stage.beginStatement, Stage.beginFactor,
      afterStatement] at h
  case definition => cases before <;> simp at h
  case operator e read site =>
    simp only [Stage.afterFactor] at h
    cases houter : e.outer <;> simp only [houter] at h
    · cases hp : e.purpose <;> simp [Stage.endExpression, hp] at h
    · simp at h
  case blockOpen owner site => split at h <;> simp at h

end Progress

/-- A token source, and the token of it that comes next. -/
structure Reader (σ : Type) where
  source : σ
  lookahead : Token

/-- A reader that counts the levels that are open at its lookahead. -/
structure Parser (σ : Type) extends Reader σ where
  depth : Nat

section

variable {σ : Type} [TokenSource σ]

namespace Reader

/-- A bound on the tokens left, the lookahead included. -/
def remaining (r : Reader σ) : Nat :=
  TokenSource.remaining r.source + (if r.lookahead.isEnd then 0 else 1)

theorem remaining_lt_of_pull {r : Reader σ} {t : Token} {s' : σ}
    (hr : r.lookahead.isEnd = false) (h : TokenSource.pull r.source = (.ok t, s')) :
    remaining ⟨s', t⟩ < r.remaining := by
  have := TokenSource.remaining_pull h
  simp only [remaining, hr, Bool.false_eq_true, if_false]
  omega

end Reader

namespace Parser

/-- A parser in front of the first token of a source, where no level is open. If
there is no token, the error and the source afterwards. -/
def ofSource (s : σ) : Except (SyntaxError × σ) (Parser σ) :=
  match TokenSource.pull s with
  | (.ok t, s') => .ok ⟨⟨s', t⟩, 0⟩
  | (.error e, s') => .error (.ofScanError e, s')

/-- The count of open levels behind the lookahead, which fits behind `progress`. -/
def depthBehind (p : Parser σ) (progress : Progress) : Nat :=
  (progress.stage.nesting p.lookahead).count p.depth

/-- Read on, where `progress` has been read in front of the lookahead. -/
def run (progress : Progress) (p : Parser σ) : Except SyntaxError Program × Parser σ :=
  match _hs : progress.advance maxNesting p.depth p.lookahead with
  | .accept program => (.ok program, p)
  | .reject fault =>
    (.error ⟨fault, p.lookahead.location⟩, ⟨p.toReader, progress.stage.leave p.depth⟩)
  | .shift next =>
    match _h : TokenSource.pull p.source with
    | (.error e, s') =>
      (.error (.ofScanError e), ⟨⟨s', p.lookahead⟩, next.stage.leave (p.depthBehind progress)⟩)
    | (.ok t, s') => run next ⟨⟨s', t⟩, p.depthBehind progress⟩
termination_by p.remaining
decreasing_by exact Reader.remaining_lt_of_pull (Progress.isEnd_eq_false_of_advance _hs) _h

/-- Read one program: one or more functions up to the end of the text. -/
def program (p : Parser σ) : Except SyntaxError Program × Parser σ := p.run .start

end Parser

/-- Read a program from the start of a source. -/
def parse (s : σ) : Except SyntaxError Program × σ :=
  match Parser.ofSource s with
  | .error (e, s') => (.error e, s')
  | .ok p =>
    let (result, p) := p.program
    (result, p.source)

/-- Read a program; a failure adds its one message to the diagnostics. -/
def parseReporting (s : σ) (diagnostics : List String) :
    Option Program × List String :=
  match (parse s).1 with
  | .ok program => (some program, diagnostics)
  | .error e => (none, diagnostics ++ [e.text])

end

end SyntaxExplorer
