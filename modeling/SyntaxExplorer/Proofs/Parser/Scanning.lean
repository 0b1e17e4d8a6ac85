import SyntaxExplorer.Proofs.Parser.Run
import SyntaxExplorer.Proofs.Progress.LeadingComma
import SyntaxExplorer.Proofs.Progress.Refusal
import SyntaxExplorer.Scanner

/-!
# SyntaxExplorer.Proofs.Parser.Scanning

**Scanning on demand changes nothing.** A parse depends on the source only
through what the source hands out before its first failure (`parse_cases`). So a
text that can be scanned as a whole parses like the list of its tokens, and of a
text that cannot, the tokens in front of the failure decide alone: if they
contain one that does not fit, whatever comes behind it is never asked for, and
if all of them fit, the failure is the answer (`parse_ofText`).
-/

namespace SyntaxExplorer

open Grammar

/-- The answer that the token `t` is, where `q` has been read. -/
inductive Progress.Answers (q : Progress) (t : Token) : Except SyntaxError Program → Prop
  | accepted {program} : q.step maxNesting t = .accept program → Answers q t (.ok program)
  | refused {fault} : q.step maxNesting t = .reject fault →
      Answers q t (.error ⟨fault, t.location⟩)

section Sources

variable {σ : Type} [TokenSource σ]

/-- The answer of `parse` to a text is that of one of its tokens, a `Progress.Run` going over
all tokens before that one, or it is the failure behind the last token. -/
theorem parse_cases {s : σ} {ts : List Token} {error : Option ScanError}
    (h : TokenSource.drain s = ⟨ts, error⟩) :
    (∃ v q t rest, Progress.Run maxNesting .start v q ∧ ts = tokens v ++ t :: rest ∧
      q.Answers t (parse s).1) ∨
    ∃ v q e, Progress.Run maxNesting .start v q ∧ ts = tokens v ∧ error = some e ∧
      (parse s).1 = .error (.ofScanError e) := by
  cases hpull : TokenSource.pull s with
  | mk answer s' =>
  cases answer with
  | error e =>
      rw [TokenSource.drain_of_error hpull] at h
      cases h
      exact .inr ⟨[], .start, e, .done, rfl, rfl, parse_of_error hpull⟩
  | ok first =>
      have hsource : Parser.ofSource s = .ok ⟨⟨s', first⟩, 0⟩ := by
        simp only [Parser.ofSource, hpull]
      rw [parse_of_ofSource hsource]
      generalize hanswer : Parser.program ⟨⟨s', first⟩, 0⟩ = answer
      obtain ⟨v, q, p, hrun, htakes, hstops⟩ := Parser.program_spec rfl hanswer
      rw [Parser.drain_ofSource hsource, htakes.drain_eq hrun.isEnd_eq_false] at h
      obtain ⟨rest, hrest⟩ := p.exists_drain_tokens
      cases hstops with
      | accepted haccept =>
          cases h
          exact .inl ⟨v, q, p.lookahead, rest, hrun, by rw [hrest], .accepted haccept⟩
      | refused hreject =>
          cases h
          exact .inl ⟨v, q, p.lookahead, rest, hrun, by rw [hrest], .refused hreject⟩
      | @cut next e s'' hshift hpull' =>
          -- The lookahead fits as well, so all tokens have been read.
          have hlast := Progress.isEnd_eq_false_of_step hshift
          rw [Reader.drain_of_not_isEnd hlast, TokenSource.drain_of_error hpull'] at h
          cases h
          refine .inr ⟨_, next, e, hrun.append (.single hshift), ?_, rfl, rfl⟩
          rw [tokens_append]
          rfl

/-- Where the next token behind those of a `Progress.Run` `Answers`, that is the answer of
`parse`. -/
theorem parse_of_answers {s : σ} {v : Phrase} {q : Progress} {t : Token} {rest : List Token}
    {error : Option ScanError} {result : Except SyntaxError Program}
    (hdrain : TokenSource.drain s = ⟨tokens v ++ t :: rest, error⟩)
    (hrun : Progress.Run maxNesting .start v q) (h : q.Answers t result) :
    (parse s).1 = result := by
  obtain ⟨p, p', hsource, htakes, rfl, -⟩ := Parser.exists_takes_of_drain hdrain
  rw [parse_of_ofSource hsource, Parser.program]
  cases h with
  | accepted haccept => rw [Parser.run_eq rfl hrun htakes (.accepted haccept)]
  | refused hreject => rw [Parser.run_eq rfl hrun htakes (.refused hreject)]

/-- A failure behind the tokens of a `Progress.Run` is the answer of `parse`. -/
theorem parse_of_failure {s : σ} {v : Phrase} {q : Progress} {e : ScanError}
    (hdrain : TokenSource.drain s = ⟨tokens v, some e⟩)
    (hrun : Progress.Run maxNesting .start v q) : (parse s).1 = .error (.ofScanError e) := by
  obtain rfl | ⟨u, x, rfl⟩ := List.eq_nil_or_concat v
  · obtain ⟨s', hpull⟩ := TokenSource.exists_pull_of_drain_nil hdrain
    exact parse_of_error hpull
  · -- The last token fits, and the source fails behind it.
    rw [List.concat_eq_append] at hrun hdrain
    obtain ⟨q', hfront, hlast⟩ := hrun.split
    cases hlast with
    | @next _ _ _ t _ hshift _ =>
        have hfrontDrain : TokenSource.drain s = ⟨tokens u ++ [t], some e⟩ := by
          rw [hdrain, tokens_append]
          rfl
        obtain ⟨p, p', hsource, htakes, rfl, hp'⟩ := Parser.exists_takes_of_drain hfrontDrain
        rw [Reader.drain_of_not_isEnd (Progress.isEnd_eq_false_of_step hshift),
          TokenSource.Drained.mk.injEq, List.cons.injEq] at hp'
        obtain ⟨⟨-, htokens⟩, herror⟩ := hp'
        have hrest : TokenSource.drain p'.source = ⟨[], some e⟩ := by
          rw [← htokens, ← herror]
        obtain ⟨s', hpull⟩ := TokenSource.exists_pull_of_drain_nil hrest
        rw [parse_of_ofSource hsource, Parser.program,
          Parser.run_eq rfl hfront htakes (.cut hshift hpull)]

end Sources

/-- In a list of tokens the first one that `Answers` gives the answer of `parse`. -/
theorem parse_replay {v : Phrase} {q : Progress} {t : Token} {rest : List Token}
    {result : Except SyntaxError Program} (hrun : Progress.Run maxNesting .start v q)
    (h : q.Answers t result) : (parse (Replay.ofTokens (tokens v ++ t :: rest))).1 = result := by
  obtain ⟨p, hsource, hlist⟩ := @Parser.exists_ofSource_replay (tokens v ++ t :: rest) (by simp)
  obtain ⟨p', htakes, rfl, -⟩ := Reader.takes_replay hlist
  rw [parse_of_ofSource hsource, Parser.program]
  cases h with
  | accepted haccept => rw [Parser.run_eq rfl hrun htakes (.accepted haccept)]
  | refused hreject => rw [Parser.run_eq rfl hrun htakes (.refused hreject)]

/-- `parse` answers a text that can be scanned as a whole like the `Replay` of its tokens. -/
theorem parse_eq_parse_replay {σ : Type} [TokenSource σ] {s : σ} {ts : List Token}
    (h : TokenSource.tokens s = .ok ts) : (parse s).1 = (parse (Replay.ofTokens ts)).1 := by
  rcases parse_cases (TokenSource.drain_of_tokens h) with
    ⟨v, q, t, rest, hrun, rfl, hanswer⟩ | ⟨v, q, e, -, -, he, -⟩
  · exact (parse_replay hrun hanswer).symm
  · cases he

/-- `parse` takes a text exactly if all of it can be scanned, and its tokens are an `IsProgram`
phrase that `NestsWithin` the limit. -/
theorem parse_eq_ok_iff_drain {σ : Type} [TokenSource σ] {s : σ} {program : Program} :
    (parse s).1 = .ok program ↔
      ∃ v last, TokenSource.drain s = ⟨tokens v ++ [last], none⟩ ∧ last.isEnd = true ∧
        IsProgram v program ∧ NestsWithin maxNesting v := by
  constructor
  · intro h
    cases hdrain : TokenSource.drain s with
    | mk ts error =>
    rcases parse_cases hdrain with ⟨v, q, t, rest, hrun, rfl, hanswer⟩ |
      ⟨v, q, e, -, -, -, hanswer⟩
    · rw [h] at hanswer
      obtain ⟨haccept⟩ := hanswer
      obtain ⟨before, stage⟩ := q
      obtain ⟨hend, rfl, hne, rfl⟩ := Progress.step_accept haccept
      have hsentence := (Progress.reads_run hrun Progress.reads_start).isProgram hne
      have hnest := (hrun.nestsWithin (Nat.zero_le _)).1
      obtain ⟨rfl, rfl⟩ := TokenSource.eq_nil_of_drain hdrain hend
      exact ⟨v, t, rfl, hend, hsentence, hnest⟩
    · rw [h] at hanswer
      cases hanswer
  · rintro ⟨v, last, hdrain, hlast, hv, hnest⟩
    have htokens : TokenSource.tokens s = .ok (tokens v ++ [last]) := by
      rw [TokenSource.tokens, hdrain]
    have hne : program.functions.reverse ≠ [] := by simpa using hv.ne_nil
    have hstep : Progress.step maxNesting ⟨program.functions.reverse, .definition⟩ last =
        .accept ⟨program.functions.reverse.reverse⟩ := Progress.step_isEnd hne hlast
    rw [List.reverse_reverse] at hstep
    rw [parse_eq_parse_replay htokens]
    exact parse_replay (Progress.run_of_isProgram hv hnest) (.accepted hstep)

/-- `parse` takes a text exactly if all of it can be scanned, and its tokens are an
`IsSentence` phrase that `NestsWithin` the limit and `HasLeadingComma` nowhere. -/
theorem parse_eq_ok_iff_isSentence {σ : Type} [TokenSource σ] {s : σ} {program : Program} :
    (parse s).1 = .ok program ↔
      ∃ v last, TokenSource.drain s = ⟨tokens v ++ [last], none⟩ ∧ last.isEnd = true ∧
        (IsSentence v program ∧ ¬ HasLeadingComma (tokens v)) ∧ NestsWithin maxNesting v := by
  simp only [parse_eq_ok_iff_drain, Progress.isProgram_iff]

namespace Progress

/-- A string literal is part of no program: every `step` rejects it. -/
theorem exists_reject_stringLiteral (limit : Nat) (q : Progress) (contents : String)
    (here : Location) :
    ∃ fault, q.step limit ⟨.stringLiteral contents, here⟩ = .reject fault := by
  obtain ⟨before, stage⟩ := q
  cases stage with
  | operator e read site =>
      obtain ⟨purpose, operands, outer⟩ := e
      cases outer with
      | nil => cases purpose <;> exact ⟨_, rfl⟩
      | cons => exact ⟨_, rfl⟩
  | blockOpen owner site =>
      simp only [step, advance]
      split <;> exact ⟨_, rfl⟩
  | _ => exact ⟨_, rfl⟩

end Progress

/-- The error says that the token `t` does not fit. -/
def SyntaxError.Refuses (err : SyntaxError) (t : Token) : Prop :=
  err.location = t.location ∧
    ((∃ wanted, err.fault = .unexpected t.lexeme wanted) ∨ err.fault = .tooDeep)

/-- The answer is an error with this message, reported here. -/
def FailsWith (message : String) (here : Location) (answer : Except SyntaxError Program) : Prop :=
  ∃ err, answer = .error err ∧ err.message = message ∧ err.location = here

theorem failsWith_error {message : String} {here : Location} {err : SyntaxError} :
    FailsWith message here (.error err) ↔ err.message = message ∧ err.location = here := by
  simp [FailsWith]

theorem refuses_of_reject {q : Progress} {t : Token} {fault : SyntaxFault}
    (h : q.step maxNesting t = .reject fault) : SyntaxError.Refuses ⟨fault, t.location⟩ t := by
  refine ⟨rfl, ?_⟩
  cases Progress.refusal_of_step h with
  | unexpected wanted => exact .inl ⟨wanted, rfl⟩
  | tooDeep => exact .inr rfl

theorem not_refuses_ofScanError (e : ScanError) (t : Token) :
    ¬ (SyntaxError.ofScanError e).Refuses t := by
  rintro ⟨-, ⟨wanted, hfault⟩ | hfault⟩ <;> cases hfault

/-- Tokens that all fit can go on in ways that fail at different places. -/
theorem not_failsWith_of_run {v : Phrase} {q : Progress} (hrun : Progress.Run maxNesting .start v q)
    (message : String) (here : Location) :
    ¬ ∀ more, FailsWith message here (parse (Replay.ofTokens (tokens v ++ more))).1 := by
  intro hall
  have hlocation : ∀ there, there = here := by
    intro there
    obtain ⟨fault, hreject⟩ := q.exists_reject_stringLiteral maxNesting "" there
    have hfails := hall [⟨.stringLiteral "", there⟩]
    rw [parse_replay hrun (.refused hreject), failsWith_error] at hfails
    exact hfails.2
  exact absurd ((hlocation .start).trans (hlocation .nowhere).symm) (by decide)

/-- **Scanning on demand and parsing a list of tokens agree.** Where the whole text
can be scanned, the answers are equal. Where scanning fails behind the tokens
`ts`, the text is no program: the error is that one of the tokens does not fit,
exactly if that is the error of every list of tokens that begins with `ts`, and
otherwise it is the failure to scan. -/
theorem parse_ofText (text : String) :
    (∀ ts, TokenSource.tokens (Cursor.ofText text) = .ok ts →
      (parse (Cursor.ofText text)).1 = (parse (Replay.ofTokens ts)).1) ∧
    ∀ ts e, TokenSource.drain (Cursor.ofText text) = ⟨ts, some e⟩ →
      ∃ err, (parse (Cursor.ofText text)).1 = .error err ∧
        (∀ message here,
          ((∃ t ∈ ts, err.Refuses t) ∧ err.message = message ∧ err.location = here) ↔
            ∀ more, FailsWith message here (parse (Replay.ofTokens (ts ++ more))).1) ∧
        ((¬ ∃ t ∈ ts, err.Refuses t) → err = .ofScanError e) := by
  refine ⟨fun ts => parse_eq_parse_replay, ?_⟩
  intro ts e hdrain
  rcases parse_cases hdrain with ⟨v, q, t, rest, hrun, rfl, hanswer⟩ |
    ⟨v, q, e', hrun, rfl, he, hanswer⟩
  · generalize hresult : (parse (Cursor.ofText text)).1 = result at hanswer ⊢
    cases hanswer with
    | accepted haccept =>
        have hend := TokenSource.isEnd_eq_false_of_drain hdrain t (by simp)
        rw [(Progress.step_accept haccept).1] at hend
        cases hend
    | @refused fault hreject =>
        have hrefuses : ∃ u ∈ tokens v ++ t :: rest,
            SyntaxError.Refuses ⟨fault, t.location⟩ u :=
          ⟨t, by simp, refuses_of_reject hreject⟩
        refine ⟨_, rfl, ?_, fun hno => absurd hrefuses hno⟩
        intro message here
        have hall : ∀ more, (parse (Replay.ofTokens (tokens v ++ t :: rest ++ more))).1 =
            .error ⟨fault, t.location⟩ := by
          intro more
          rw [List.append_assoc, List.cons_append]
          exact parse_replay hrun (.refused hreject)
        constructor
        · rintro ⟨-, hreport⟩ more
          rw [hall more]
          exact failsWith_error.2 hreport
        · intro hfails
          have hreport := hfails []
          rw [hall []] at hreport
          exact ⟨hrefuses, failsWith_error.1 hreport⟩
  · cases he
    refine ⟨_, hanswer, ?_, fun _ => rfl⟩
    intro message here
    constructor
    · rintro ⟨⟨t, -, hrefuses⟩, -⟩
      exact absurd hrefuses (not_refuses_ofScanError e t)
    · intro hall
      exact absurd hall (not_failsWith_of_run hrun message here)

/-- The text `int` parses like its two tokens, and in `;@` the semicolon is the
error although the text cannot be scanned to its end. -/
theorem parse_int_and_semicolon :
    (parse (Cursor.ofText "int")).1 =
        (parse (Replay.ofTokens [⟨.keyword .int, ⟨1, 1⟩⟩, ⟨.endOfFile, ⟨1, 4⟩⟩])).1 ∧
      ∃ err, (parse (Cursor.ofText ";@")).1 = .error err ∧
        ∃ t ∈ [(⟨.symbol .semicolon, ⟨1, 1⟩⟩ : Token)], err.Refuses t := by
  have hint : TokenSource.pull (Cursor.ofText "int") =
      (.ok ⟨.keyword .int, ⟨1, 1⟩⟩, ⟨[], ⟨1, 4⟩⟩) := by
    show (⟨['i', 'n', 't'], .start⟩ : Cursor).scan = _
    rw [Cursor.scan, Cursor.skipLayout]
    rfl
  have hend : TokenSource.pull (⟨[], ⟨1, 4⟩⟩ : Cursor) =
      (.ok ⟨.endOfFile, ⟨1, 4⟩⟩, ⟨[], ⟨1, 4⟩⟩) := by
    show Cursor.scan _ = _
    rw [Cursor.scan, Cursor.skipLayout]
    rfl
  have hsemicolon : TokenSource.pull (Cursor.ofText ";@") =
      (.ok ⟨.symbol .semicolon, ⟨1, 1⟩⟩, ⟨['@'], ⟨1, 2⟩⟩) := by
    show (⟨[';', '@'], .start⟩ : Cursor).scan = _
    rw [Cursor.scan, Cursor.skipLayout]
    rfl
  have hat : TokenSource.pull (⟨['@'], ⟨1, 2⟩⟩ : Cursor) =
      (.error ⟨.unexpectedCharacter '@', ⟨1, 2⟩⟩, ⟨[], ⟨1, 3⟩⟩) := by
    show Cursor.scan _ = _
    rw [Cursor.scan, Cursor.skipLayout]
    rfl
  have htokens : TokenSource.tokens (Cursor.ofText "int") =
      .ok [⟨.keyword .int, ⟨1, 1⟩⟩, ⟨.endOfFile, ⟨1, 4⟩⟩] := by
    rw [TokenSource.tokens, TokenSource.drain_of_token hint rfl, TokenSource.drain_of_end hend rfl]
  have hdrain : TokenSource.drain (Cursor.ofText ";@") =
      ⟨[⟨.symbol .semicolon, ⟨1, 1⟩⟩], some ⟨.unexpectedCharacter '@', ⟨1, 2⟩⟩⟩ := by
    rw [TokenSource.drain_of_token hsemicolon rfl, TokenSource.drain_of_error hat]
  refine ⟨(parse_ofText "int").1 _ htokens, ?_⟩
  obtain ⟨err, herr, hsame, -⟩ := (parse_ofText ";@").2 _ _ hdrain
  have hfails : ∀ more, FailsWith "unexpected ';', expected type" ⟨1, 1⟩
      (parse (Replay.ofTokens ([⟨.symbol .semicolon, ⟨1, 1⟩⟩] ++ more))).1 :=
    fun more => ⟨_, parse_replay .done (.refused rfl), by decide, rfl⟩
  exact ⟨err, herr, ((hsame _ _).2 hfails).1⟩

end SyntaxExplorer
