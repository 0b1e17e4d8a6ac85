import SyntaxExplorer.Proofs.Parser.Run
import SyntaxExplorer.Proofs.Progress.Completeness
import SyntaxExplorer.Proofs.Progress.Refusal
import SyntaxExplorer.Proofs.Progress.Soundness

/-!
# SyntaxExplorer.Proofs.Parser.Sentences

**The texts that are programs.** A list of tokens parses to a program exactly if
it is a sentence of the grammar, within the limit on nesting, and then the
program is the tree of the derivation (`parse_eq_ok_iff_isProgram`).

In one direction the run of the parser is turned into a derivation, in the other
the derivation into a run; the two meet in `Progress.Run`.
-/

namespace SyntaxExplorer

open Grammar

namespace Parser

variable {σ : Type} [TokenSource σ]

/-- What `Parser.program` accepts is an `IsProgram` phrase: the tokens that were taken, up to
the end of the text. -/
theorem isProgram_of_program_eq_ok {r : Reader σ} {p : Parser σ} {program : Program}
    (h : Parser.program ⟨r, 0⟩ = (.ok program, p)) :
    ∃ s, IsProgram s program ∧ NestsWithin maxNesting s ∧ r.Takes (tokens s) p.toReader ∧
      p.lookahead.isEnd = true := by
  obtain ⟨s, q, r', hrun, htakes, hstops⟩ := program_spec rfl h
  cases hstops with
  | accepted haccept =>
      obtain ⟨before, stage⟩ := q
      obtain ⟨hend, hstage, hne, rfl⟩ := Progress.step_accept haccept
      obtain rfl : stage = .definition := hstage
      have hreads := Progress.reads_run hrun Progress.reads_start
      exact ⟨s, hreads.isProgram hne, (hrun.nestsWithin (Nat.zero_le _)).1, htakes, hend⟩

/-- `Parser.program` accepts an `IsProgram` phrase in front of the end of the text. -/
theorem program_eq_ok {r r' : Reader σ} {s : Phrase} {program : Program}
    (hs : IsProgram s program) (hnest : NestsWithin maxNesting s) (htakes : r.Takes (tokens s) r')
    (hend : r'.lookahead.isEnd = true) :
    Parser.program ⟨r, 0⟩ = (.ok program, ⟨r', 0⟩) := by
  have hrun := Progress.run_of_isProgram hs hnest
  have haccept : Progress.step maxNesting ⟨program.functions.reverse, .definition⟩
      r'.lookahead = .accept program := by
    rw [Progress.step_isEnd (by simpa using hs.ne_nil) hend, List.reverse_reverse]
  exact run_eq rfl hrun htakes (.accepted haccept)

end Parser

open SyntaxExplorer.Parser in
/-- `parse` takes a list of tokens, ended by the end of the text, to a program exactly if the
list is an `IsProgram` phrase of the program that `NestsWithin` the limit. -/
theorem parse_eq_ok_iff_isProgram {ts : List Token} {last : Token} (program : Program)
    (hts : ∀ t ∈ ts, t.isEnd = false) (hlast : last.isEnd = true) :
    (parse (Replay.ofTokens (ts ++ [last]))).1 = .ok program ↔
      ∃ s, IsProgram s program ∧ tokens s = ts ∧ NestsWithin maxNesting s := by
  obtain ⟨r, hsource, hlist⟩ := @exists_ofSource_replay (ts ++ [last]) (by simp)
  rw [parse_of_ofSource hsource]
  constructor
  · intro h
    have hprogram : Parser.program ⟨r, 0⟩ = (.ok program, (Parser.program ⟨r, 0⟩).2) := by
      rw [← h]
    obtain ⟨s, hs, hnest, htakes, hend⟩ := isProgram_of_program_eq_ok hprogram
    have hsent := (Progress.run_of_isProgram hs hnest).isEnd_eq_false
    obtain ⟨rest, rfl, hrest⟩ := htakes.exists_replay hsent hlast hlist
    cases rest with
    | nil => exact ⟨s, hs, (List.append_nil _).symm, hnest⟩
    | cons t rest =>
        -- The text would be over in front of its end.
        obtain ⟨rfl, -⟩ := List.cons.inj hrest
        rw [hts _ (by simp)] at hend
        cases hend
  · rintro ⟨s, hs, rfl, hnest⟩
    obtain ⟨r', htakes, rfl, -⟩ := Reader.takes_replay hlist
    rw [program_eq_ok hs hnest htakes hlast]

/-- `int f() { return a - b * 2; }` is a program: the product binds tighter. -/
theorem parse_eq_ok_of_product :
    (parse (Replay.ofTokens
        ([⟨.keyword .int, ⟨1, 1⟩⟩, ⟨.identifier "f", ⟨1, 5⟩⟩, ⟨.symbol .openParen, ⟨1, 6⟩⟩,
          ⟨.symbol .closeParen, ⟨1, 7⟩⟩, ⟨.symbol .openBrace, ⟨1, 9⟩⟩,
          ⟨.keyword .returnWord, ⟨1, 11⟩⟩, ⟨.identifier "a", ⟨1, 18⟩⟩,
          ⟨.symbol .minus, ⟨1, 20⟩⟩, ⟨.identifier "b", ⟨1, 22⟩⟩, ⟨.symbol .star, ⟨1, 24⟩⟩,
          ⟨.number 2, ⟨1, 26⟩⟩, ⟨.symbol .semicolon, ⟨1, 27⟩⟩,
          ⟨.symbol .closeBrace, ⟨1, 29⟩⟩] ++ [⟨.endOfFile, ⟨1, 30⟩⟩]))).1 =
      .ok ⟨[⟨"f", .int, [],
        [.returnValue (some (.binary .sub (.id "a" ⟨1, 18⟩)
          (.binary .mul (.id "b" ⟨1, 22⟩) (.number "2" ⟨1, 26⟩) ⟨1, 24⟩) ⟨1, 20⟩)) ⟨1, 11⟩],
        ⟨1, 1⟩⟩]⟩ := by
  have hproduct : IsExpr .term 0
      ([ident "b" ⟨1, 22⟩ 0] ++ sym Operator.mul.sign ⟨1, 24⟩ 0 :: [num 2 ⟨1, 26⟩ 0])
      (.binary .mul (.id "b" ⟨1, 22⟩) (.number "2" ⟨1, 26⟩) ⟨1, 24⟩) :=
    .product rfl (.ofFactor .id) .number
  have hvalue : IsExpr .expression 0
      ([ident "a" ⟨1, 18⟩ 0] ++ sym Operator.sub.sign ⟨1, 20⟩ 0 :: _)
      (.binary .sub (.id "a" ⟨1, 18⟩) _ ⟨1, 20⟩) :=
    .sum rfl (.ofTerm (.ofFactor .id)) hproduct
  have hheader : IsHeader IsParams _ ⟨⟨"f", .int, ⟨1, 1⟩⟩, []⟩ :=
    .header ⟨1, 5⟩ ⟨1, 6⟩ ⟨1, 7⟩ ⟨1, 9⟩ .none
  have hbody : IsStatements 0 _ [.returnValue _ ⟨1, 11⟩] :=
    .one (.returnSome ⟨1, 27⟩ hvalue)
  refine (parse_eq_ok_iff_isProgram _ (by decide) rfl).2
    ⟨_, .one (.function ⟨1, 29⟩ hheader hbody), rfl, ?_⟩
  simp [maxNesting]

end SyntaxExplorer
