import SyntaxExplorer.Proofs.Parser.Scanning
import SyntaxExplorer.Proofs.Scanner.Concatenation

/-!
# SyntaxExplorer.Proofs.Parser.Concatenation

**Programs one below the other.** A program followed by a line feed and another text is
parsed like that text, as many lines further down, behind the functions of the program
(`parse_lineFeed`): no place, no lookahead and no open level of the first text is seen
in the second one, whether that is a program or fails in whatever way
(`parse_concatenation`).
-/

namespace SyntaxExplorer

open Grammar

def SyntaxError.relocate (f : Location → Location) (e : SyntaxError) : SyntaxError :=
  ⟨e.fault, f e.location⟩

/-- The answer to a text at other locations, behind the functions `earlier`. -/
def answerBelow (f : Location → Location) (earlier : List Function) :
    Except SyntaxError Program → Except SyntaxError Program
  | .ok q => .ok ⟨earlier ++ (q.relocate f).functions⟩
  | .error e => .error (e.relocate f)

/-- What `Answers` says is the same at other locations and behind other functions. The text
must not be over where it starts. -/
theorem Progress.Answers.relocate {q : Progress} {t : Token} {answer : Except SyntaxError Program}
    (f : Location → Location) (earlier : List Function) (h : q.Answers t answer)
    (hstart : q ≠ .start ∨ t.isEnd = false) :
    (q.relocate f earlier.reverse).Answers (t.relocate f) (answerBelow f earlier answer) := by
  have hstep : (q.relocate f earlier.reverse).step maxNesting (t.relocate f) =
      (q.step maxNesting t).relocate f earlier.reverse :=
    step_relocate f earlier.reverse hstart
  cases h with
  | accepted haccept =>
      rw [haccept, Outcome.relocate, List.reverse_reverse] at hstep
      exact .accepted hstep
  | refused hreject =>
      rw [hreject, Outcome.relocate] at hstep
      exact .refused hstep

/-- **A text below a program is parsed like at the top**, further down and behind the functions
of the program (`answerBelow`). -/
theorem parse_lineFeed {first second : String} {p : Program}
    (hfirst : (parse (Cursor.ofText first)).1 = .ok p)
    (hsecond : ∀ t c, TokenSource.pull (Cursor.ofText second) = (.ok t, c) → t.isEnd = false) :
    (parse (Cursor.ofText (first ++ "\n" ++ second))).1 =
      answerBelow (Location.down (first.toList.count '\n' + 1)) p.functions
        (parse (Cursor.ofText second)).1 := by
  obtain ⟨v, last, hv, -, hprogram, hnest⟩ := parse_eq_ok_iff_drain.1 hfirst
  have hdrain := Cursor.drain_ofText_lineFeed hv second
  generalize Location.down (first.toList.count '\n' + 1) = f at hdrain ⊢
  -- Behind the first text the parser is where it is at the start, but for the functions.
  have hrun : Progress.Run maxNesting .start v (Progress.start.relocate f p.functions.reverse) :=
    Progress.run_of_isProgram hprogram hnest
  cases hdrainSecond : TokenSource.drain (Cursor.ofText second) with
  | mk ts error =>
  rw [hdrainSecond] at hdrain
  rcases parse_cases hdrainSecond with ⟨u, q, t, rest, hu, rfl, hanswer⟩ |
    ⟨u, q, e, hu, rfl, rfl, hanswer⟩
  · have hstart : q ≠ .start ∨ t.isEnd = false := by
      refine or_iff_not_imp_left.2 fun hq => ?_
      obtain rfl : q = .start := not_not.1 hq
      -- Nothing was read, so the text begins with the token.
      obtain rfl : u = [] := (Progress.reads_run hu Progress.reads_start).eq_nil
      obtain ⟨c, hpull⟩ := TokenSource.exists_pull_of_drain_cons hdrainSecond
      exact hsecond t c hpull
    have hdrain' : TokenSource.drain (Cursor.ofText (first ++ "\n" ++ second)) =
        ⟨tokens (v ++ u.map (Placed.relocate f)) ++ t.relocate f :: rest.map (Token.relocate f),
          error.map (ScanError.relocate f)⟩ := by
      rw [hdrain]
      simp [TokenSource.Drained.relocate, tokens_relocate]
    exact parse_of_answers hdrain' (hrun.append (hu.relocate f _)) (hanswer.relocate f _ hstart)
  · have hdrain' : TokenSource.drain (Cursor.ofText (first ++ "\n" ++ second)) =
        ⟨tokens (v ++ u.map (Placed.relocate f)), some (e.relocate f)⟩ := by
      rw [hdrain]
      simp [TokenSource.Drained.relocate, tokens_relocate]
    rw [hanswer]
    exact parse_of_failure hdrain' (hrun.append (hu.relocate f _))

/-- **Parsing is a homomorphism.** A program, a line feed and a second text that is not blank
are a program to `parse` if the second text is one. Its functions are those of the first
program and, behind them, those of the second one, each `relocate`d by the lines of the first
text; so its `outline` is one outline behind the other, and its `Census` is their sum. If the
second text fails, then both together fail for the same reason in the same column, as many
lines further down. -/
theorem parse_concatenation {first second : String} {p : Program}
    (hfirst : (parse (Cursor.ofText first)).1 = .ok p)
    (hsecond : ∀ t c, TokenSource.pull (Cursor.ofText second) = (.ok t, c) → t.isEnd = false) :
    let lines := first.toList.count '\n' + 1
    let answer := (parse (Cursor.ofText (first ++ "\n" ++ second))).1
    (∀ q, (parse (Cursor.ofText second)).1 = .ok q →
      ∃ r : Program, answer = .ok r ∧
        r.functions = p.functions ++ q.functions.map (Function.relocate (Location.down lines)) ∧
        (∀ indent, r.outline indent = p.outline indent ++ q.outline indent) ∧
        (∀ kind, (Census.ofProgram r).count kind =
          (Census.ofProgram p).count kind + (Census.ofProgram q).count kind) ∧
        (Census.ofProgram r).total = (Census.ofProgram p).total + (Census.ofProgram q).total) ∧
    ∀ e, (parse (Cursor.ofText second)).1 = .error e →
      ∃ e', answer = .error e' ∧ e'.fault = e.fault ∧ e'.message = e.message ∧
        e'.location.line = e.location.line + lines ∧ e'.location.column = e.location.column := by
  intro lines answer
  have hanswer : answer = answerBelow (Location.down lines) p.functions
      (parse (Cursor.ofText second)).1 := parse_lineFeed hfirst hsecond
  constructor
  · intro q hq
    rw [hq] at hanswer
    exact ⟨_, hanswer, rfl, Program.outline_append_relocate _ p q,
      Program.count_append_relocate _ p q, Program.total_append_relocate _ p q⟩
  · intro e he
    rw [he] at hanswer
    exact ⟨_, hanswer, rfl, rfl, rfl, rfl⟩

/-- A comment that is open at the end of the first text is closed by the line feed, and
an error of the second text is found one line further down. -/
theorem parse_two_lines :
    (∃ r, (parse (Cursor.ofText
        "void f() \x7b return; \x7d // \"\nint g() \x7b return; \x7d")).1 = .ok r ∧
      r.functions = [⟨"f", .void, [], [.returnValue none ⟨1, 12⟩], ⟨1, 1⟩⟩,
        ⟨"g", .int, [], [.returnValue none ⟨2, 11⟩], ⟨2, 1⟩⟩]) ∧
    ∃ e, (parse (Cursor.ofText "void f() \x7b return; \x7d // \"\nint g() \"")).1 = .error e ∧
      e.message = "Unterminated string literal" ∧ e.location.line = 2 ∧ e.location.column = 9 := by
  have hfirst : (parse (Cursor.ofText "void f() \x7b return; \x7d // \"")).1 =
      .ok ⟨[⟨"f", .void, [], [.returnValue none ⟨1, 12⟩], ⟨1, 1⟩⟩]⟩ := by
    decide +kernel
  have hbegins : ∀ {second : String} {c : Cursor},
      TokenSource.pull (Cursor.ofText second) = (.ok ⟨.keyword .int, .start⟩, c) →
        ∀ t c, TokenSource.pull (Cursor.ofText second) = (.ok t, c) → t.isEnd = false := by
    intro second c h t c' h'
    cases h.symm.trans h'
    rfl
  constructor
  · have hpull : TokenSource.pull (Cursor.ofText "int g() \x7b return; \x7d") =
        (.ok ⟨.keyword .int, .start⟩, ⟨" g() \x7b return; \x7d".toList, ⟨1, 4⟩⟩) := by
      decide +kernel
    have hsecond : (parse (Cursor.ofText "int g() \x7b return; \x7d")).1 =
        .ok ⟨[⟨"g", .int, [], [.returnValue none ⟨1, 11⟩], ⟨1, 1⟩⟩]⟩ := by
      decide +kernel
    obtain ⟨r, hr, hfunctions, -⟩ := (parse_concatenation hfirst (hbegins hpull)).1 _ hsecond
    exact ⟨r, hr, hfunctions⟩
  · have hpull : TokenSource.pull (Cursor.ofText "int g() \"") =
        (.ok ⟨.keyword .int, .start⟩, ⟨" g() \"".toList, ⟨1, 4⟩⟩) := by
      decide +kernel
    have hsecond : (parse (Cursor.ofText "int g() \"")).1 =
        .error ⟨.scan .unterminatedString, ⟨1, 9⟩⟩ := by
      decide +kernel
    obtain ⟨e, he, -, hmessage, hline, hcolumn⟩ :=
      (parse_concatenation hfirst (hbegins hpull)).2 _ hsecond
    exact ⟨e, he, hmessage, hline, hcolumn⟩

end SyntaxExplorer
