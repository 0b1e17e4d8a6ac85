import SyntaxExplorer.Proofs.Parser.Run
import SyntaxExplorer.Proofs.Progress.Completion
import SyntaxExplorer.Proofs.Progress.LeadingComma

/-!
# SyntaxExplorer.Proofs.Parser.ValidPrefix

**An error is reported at the first token that admits no continuation.** What
stands in front of that token is the beginning of a sentence (`Grammar.IsSentence`),
since everything that was read can be completed; with the token it is the beginning of
none, since a sentence would have been read past it. Where the limit on nesting is the
reason, the number of open levels is the limit, and no sentence within the limit
goes on with the token (`program_stops_at_misfit`).

There is one exception. The grammar derives a list of parameters that begins with a comma,
which is refused all the same: a sentence does go on with that comma
(`leading_comma_is_refused`).
-/

namespace SyntaxExplorer

open Grammar

namespace Grammar

/-- Some `IsSentence` phrase begins with the tokens. -/
def BeginsSentence (ts : List Token) : Prop :=
  ∃ s program, IsSentence s program ∧ ts <+: tokens s

/-- Some sentence with the property, followed by the end of the text, begins
with the tokens. -/
def BeginsText (property : Phrase → Prop) (ts : List Token) : Prop :=
  ∃ s program fin, IsSentence s program ∧ property s ∧ fin.isEnd = true ∧
    ts <+: tokens s ++ [fin]

/-- Behind the tokens some sentence goes on, and every sentence that does has
`depth` levels open there. -/
def LevelsOpen (depth : Nat) (ts : List Token) : Prop :=
  (∃ s x u program, IsSentence (s ++ x :: u) program ∧ tokens s = ts) ∧
    ∀ s x u program, IsSentence (s ++ x :: u) program → tokens s = ts → x.depth = depth

end Grammar

namespace Progress

variable {limit : Nat} {s : Phrase} {q : Progress}

/-- What a `Run` has read from the start goes on to an `IsProgram` phrase. -/
theorem exists_isProgram (hrun : Run limit .start s q) :
    ∃ u f before, Run (limit + 1) q u ⟨f :: before, .definition⟩ ∧
      IsProgram (s ++ u) ⟨(f :: before).reverse⟩ := by
  have hdepth := (hrun.nestsWithin (Nat.zero_le _)).2
  obtain ⟨u, f, before, hrest⟩ := completes q (Nat.lt_succ_of_le hdepth)
  have hreads := reads_run ((hrun.mono (Nat.le_succ _)).append hrest) reads_start
  exact ⟨u, f, before, hrest, hreads.isProgram (List.cons_ne_nil _ _)⟩

/-- No `IsProgram` phrase within the limit goes on with a token that `step` rejects. -/
theorem not_prefix_of_reject {t fin : Token} {fault : SyntaxFault} {v : Phrase}
    {program : Program} (hrun : Run limit .start s q) (h : q.step limit t = .reject fault)
    (hv : IsProgram v program) (hnest : NestsWithin limit v) (hfin : fin.isEnd = true) :
    ¬ tokens s ++ [t] <+: tokens v ++ [fin] := by
  intro hfront
  have hrun' := run_of_isProgram hv hnest
  rcases List.prefix_concat_iff.1 hfront with heq | hfront
  · -- The refused token would be the end behind the whole sentence.
    obtain ⟨htokens, rfl⟩ := List.append_singleton_inj.1 heq
    obtain ⟨rfl, rfl⟩ := hrun.eq_of_tokens hrun' htokens
    rw [step_isEnd (by simpa using hv.ne_nil) hfin] at h
    cases h
  · obtain ⟨next, hnext⟩ := hrun.shift_of_prefix hrun' hfront
    rw [hnext] at h
    cases h

/-- An `IsSentence` phrase within the limit goes on with a token that `step` rejects in one
place only, with a comma where the first parameter is wanted. -/
theorem firstParam_of_reject {t fin : Token} {fault : SyntaxFault} {v : Phrase}
    {program : Program} (hrun : Run limit .start s q) (h : q.step limit t = .reject fault)
    (hv : IsSentence v program) (hnest : NestsWithin limit v) (hfin : fin.isEnd = true)
    (hfront : tokens s ++ [t] <+: tokens v ++ [fin]) :
    t.lexeme = .symbol .comma ∧ ∃ signature, q.stage = .firstParam signature := by
  rcases run_of_isSentence hv hnest with hv | ⟨u, comma, w, before, signature, rfl, hrun'⟩
  · exact absurd hfront (not_prefix_of_reject hrun h hv hnest hfin)
  · have hcomma : tokens u ++ [⟨.symbol .comma, comma⟩] <+:
        tokens (u ++ sym .comma comma 0 :: w) ++ [fin] := by simp
    have hsame : tokens s ++ [t] = tokens u ++ [⟨.symbol .comma, comma⟩] →
        t.lexeme = .symbol .comma ∧ ∃ signature, q.stage = .firstParam signature := by
      intro heq
      obtain ⟨htokens, rfl⟩ := List.append_singleton_inj.1 heq
      obtain ⟨rfl, rfl⟩ := hrun.eq_of_tokens hrun' htokens
      exact ⟨rfl, signature, rfl⟩
    -- The two places are one, or one of the runs passes the token that stops the other one.
    rcases List.prefix_or_prefix_of_prefix hfront hcomma with hle | hle
    · rcases List.prefix_concat_iff.1 hle with heq | hle
      · exact hsame heq
      · obtain ⟨next, hnext⟩ := hrun.shift_of_prefix hrun' hle
        rw [hnext] at h
        cases h
    · rcases List.prefix_concat_iff.1 hle with heq | hle
      · exact hsame heq.symm
      · obtain ⟨next, hnext⟩ := hrun'.shift_of_prefix hrun hle
        rw [step_comma rfl rfl] at hnext
        cases hnext

/-- Where the grammar wants something else than the token `t`, a sentence goes on with it in
one case only: it is a comma that begins a list of parameters. -/
theorem beginsText_iff_of_unexpected {t : Token} {found : Lexeme} {wanted : Expectation}
    (hrun : Run limit .start s q) (h : q.step limit t = .reject (.unexpected found wanted)) :
    BeginsText (fun _ => True) (tokens s ++ [t]) ↔
      t.lexeme = .symbol .comma ∧ OpensParams (tokens s) := by
  constructor
  · rintro ⟨v, program, fin, hv, -, hfin, hfront⟩
    -- With a limit that suits the sentence the token is refused all the same.
    obtain ⟨depth, hdepth⟩ := exists_nestsWithin v
    have hle := Nat.le_max_left limit depth
    have h' : q.step (max limit depth) t = .reject (.unexpected found wanted) := by
      rcases step_eq_or_tooDeep hle q t with hdeep | heq
      · rw [hdeep] at h
        cases h
      · exact heq.trans h
    have hrun' := hrun.mono hle
    obtain ⟨ht, signature, hq⟩ := firstParam_of_reject hrun' h' hv
      (hdepth.mono (Nat.le_max_right ..)) hfin hfront
    exact ⟨ht, opensParams_of_run hrun' hq⟩
  · rintro ⟨ht, hopens⟩
    obtain ⟨signature, hq⟩ := exists_firstParam_of_opensParams hrun hopens
    obtain ⟨u, program, hprogram⟩ := exists_isSentence_of_run hrun hq t.location
    refine ⟨_, program, ⟨.endOfFile, .start⟩, hprogram, trivial, rfl, ?_⟩
    obtain ⟨lexeme, here⟩ := t
    obtain rfl : lexeme = .symbol .comma := ht
    simp

/-- Two `Run`s over the same tokens have the same levels open behind them. -/
theorem depth_of_run {v u : Phrase} {x : Placed} {r : Progress} (hrun : Run limit .start s q)
    (h : Run limit .start (v ++ x :: u) r) (htokens : tokens v = tokens s) :
    x.depth = q.stage.depth := by
  obtain ⟨q', hfront, hrest⟩ := h.split
  obtain ⟨-, rfl⟩ := hrun.eq_of_tokens hfront htokens.symm
  cases hrest with
  | next => rfl

/-- The `depth` of a stage that a `Run` comes to counts the `LevelsOpen` there in every
sentence. -/
theorem levelsOpen_of_run (hrun : Run limit .start s q) (hpos : 0 < q.stage.depth) :
    LevelsOpen q.stage.depth (tokens s) := by
  refine ⟨?_, ?_⟩
  · obtain ⟨u, f, before, hrest, hprogram⟩ := exists_isProgram hrun
    cases hrest with
    | done => simp [Stage.depth] at hpos
    | next => exact ⟨s, _, _, _, hprogram.isSentence, rfl⟩
  · intro v x u program hprogram htokens
    obtain ⟨depth, hdepth⟩ := exists_nestsWithin (v ++ x :: u)
    have hrun' := hrun.mono (Nat.le_max_left limit depth)
    have hnest := hdepth.mono (Nat.le_max_right limit depth)
    rcases run_of_isSentence hprogram hnest with hstrict | ⟨w, comma, z, before, signature, heq, hw⟩
    · exact depth_of_run hrun' (run_of_isProgram hstrict hnest) htokens
    · -- The tokens end in front of the comma, since no run passes it, and not directly there.
      have hlevel : ∀ {y : Phrase}, v = w ++ y → x.depth = q.stage.depth := by
        rintro y rfl
        cases y with
        | nil =>
            rw [List.append_nil] at htokens
            obtain ⟨-, rfl⟩ := hrun'.eq_of_tokens hw htokens.symm
            simp [Stage.depth] at hpos
        | cons c y =>
            rw [List.append_assoc, List.append_cancel_left_eq] at heq
            obtain ⟨rfl, -⟩ := List.cons.inj heq
            obtain ⟨next, hnext⟩ := hw.shift_of_prefix (t := ⟨.symbol .comma, comma⟩) hrun'
              (by rw [← htokens]; simp)
            rw [step_comma rfl rfl] at hnext
            cases hnext
      rcases List.append_eq_append_iff.1 heq with ⟨y, rfl, hrest⟩ | ⟨y, hv, -⟩
      · cases y with
        | nil => exact hlevel (y := []) (by simp)
        | cons x' y =>
            obtain ⟨rfl, -⟩ := List.cons.inj hrest
            exact depth_of_run hrun' hw htokens
      · exact hlevel hv

end Progress

open SyntaxExplorer.Parser in
/-- **A parser stops at the first token that admits no continuation.** On a list of
tokens an error of `Parser.program` leaves the parser in front of the token `t` that it is
located at. The tokens in front of `t` are the beginning of a sentence (`BeginsSentence`).
Either the message is about `t`, and with `t` a sentence goes on (`BeginsText`) only if `t`
is a comma that would begin a list of parameters (`OpensParams`), where a type is wanted. Or
it is about the nesting, as many levels are open as may be (`LevelsOpen`), and with `t` no
sentence within the limit goes on. -/
theorem program_stops_at_misfit {ts : List Token} {last : Token} {p p' : Parser Replay}
    {err : SyntaxError} (hts : ∀ t ∈ ts, t.isEnd = false) (hlast : last.isEnd = true)
    (hsource : Parser.ofSource (Replay.ofTokens (ts ++ [last])) = .ok p)
    (herr : p.program = (.error err, p')) :
    ∃ read t rest, ts ++ [last] = read ++ t :: rest ∧
      p'.lookahead = t ∧ p'.source.tokens = rest ∧ err.location = t.location ∧
      BeginsSentence read ∧
      ((∃ wanted, err.fault = .unexpected t.lexeme wanted ∧
          err.message = s!"unexpected {t.text}, expected {wanted.text}" ∧
          (BeginsText (fun _ => True) (read ++ [t]) ↔
            t.lexeme = .symbol .comma ∧ OpensParams read) ∧
          (t.lexeme = .symbol .comma → OpensParams read → wanted = .type)) ∨
        (err.fault = .tooDeep ∧
          err.message = "memory exhausted: more than 128 nested levels" ∧
          LevelsOpen 128 read ∧ ¬ BeginsText (NestsWithin 128) (read ++ [t]))) := by
  obtain ⟨s, q, r, hrun, htakes, hstops⟩ := program_spec (pull_of_ofSource hsource).1 herr
  have hlist := ofSource_replay_eq (by simp) hsource
  obtain ⟨rest, rfl, hrest⟩ := htakes.exists_replay hrun.isEnd_eq_false hlast hlist
  have hbegins : BeginsSentence (tokens s) := by
    obtain ⟨u, f, before, -, hprogram⟩ := Progress.exists_isProgram hrun
    exact ⟨_, _, hprogram.isSentence, by simp⟩
  cases hstops with
  | cut _ hpull => cases hpull
  | @refused fault h =>
      refine ⟨tokens s, r.lookahead, r.source.tokens, by rw [hrest, List.append_assoc], rfl, rfl,
        rfl, hbegins, ?_⟩
      cases Progress.refusal_of_step h with
      | unexpected wanted =>
          refine .inl ⟨wanted, rfl, rfl, Progress.beginsText_iff_of_unexpected hrun h, ?_⟩
          intro ht hopens
          obtain ⟨signature, hq⟩ := Progress.exists_firstParam_of_opensParams hrun hopens
          cases h.symm.trans (Progress.step_comma hq ht)
          rfl
      | tooDeep hle =>
          have hdepth : q.stage.depth = 128 :=
            Nat.le_antisymm (hrun.nestsWithin (Nat.zero_le _)).2 hle
          refine .inr ⟨rfl, rfl, hdepth ▸ Progress.levelsOpen_of_run hrun (by omega), ?_⟩
          rintro ⟨v, program, fin, hv, hnest, hfin, hfront⟩
          obtain ⟨ht, signature, hq⟩ :=
            Progress.firstParam_of_reject hrun h hv hnest hfin hfront
          cases h.symm.trans (Progress.step_comma hq ht)

open SyntaxExplorer.Parser in
/-- Behind `int` no program goes on with a semicolon. -/
theorem not_beginsText_int_semicolon :
    BeginsSentence [⟨.keyword .int, ⟨1, 1⟩⟩] ∧
      ¬ BeginsText (fun _ => True) [⟨.keyword .int, ⟨1, 1⟩⟩, ⟨.symbol .semicolon, ⟨1, 5⟩⟩] := by
  have hsource : ofSource (Replay.ofTokens
      ([⟨.keyword .int, ⟨1, 1⟩⟩, ⟨.symbol .semicolon, ⟨1, 5⟩⟩] ++ [⟨.endOfFile, ⟨1, 6⟩⟩])) =
      .ok ⟨⟨⟨[⟨.symbol .semicolon, ⟨1, 5⟩⟩, ⟨.endOfFile, ⟨1, 6⟩⟩], ⟨1, 1⟩⟩,
        ⟨.keyword .int, ⟨1, 1⟩⟩⟩, 0⟩ := rfl
  have hrun : Progress.Run maxNesting .start [key .int ⟨1, 1⟩ 0]
      ⟨[], .functionName .int ⟨1, 1⟩⟩ := .single rfl
  have hstops : Stops ⟨[], .functionName .int ⟨1, 1⟩⟩
      (⟨⟨[⟨.endOfFile, ⟨1, 6⟩⟩], ⟨1, 5⟩⟩, ⟨.symbol .semicolon, ⟨1, 5⟩⟩⟩ : Reader Replay)
      (.error ⟨.unexpected (.symbol .semicolon) .identifier, ⟨1, 5⟩⟩, _) := .refused rfl
  have htakes : Reader.Takes
      (⟨⟨[⟨.symbol .semicolon, ⟨1, 5⟩⟩, ⟨.endOfFile, ⟨1, 6⟩⟩], ⟨1, 1⟩⟩,
        ⟨.keyword .int, ⟨1, 1⟩⟩⟩ : Reader Replay) [⟨.keyword .int, ⟨1, 1⟩⟩] _ :=
    .next rfl .done
  have herr := run_eq (p := ⟨_, 0⟩) rfl hrun htakes hstops
  obtain ⟨read, t, rest, hlist, rfl, rfl, -, hbegins, ⟨-, -, -, hno, -⟩ | ⟨hdeep, -⟩⟩ :=
    program_stops_at_misfit (by decide) rfl hsource herr
  · obtain rfl : [⟨.keyword .int, ⟨1, 1⟩⟩] = read := List.append_cancel_right hlist
    exact ⟨hbegins, fun hbegins => nomatch (hno.1 hbegins).1⟩
  · cases hdeep

open SyntaxExplorer.Parser in
/-- `int f(, int a) { return; }` is a sentence of the grammar, and it is refused at the comma:
a sentence begins with the tokens up to the one that the message is about. -/
theorem leading_comma_is_refused :
    let read : List Token := [⟨.keyword .int, ⟨1, 1⟩⟩, ⟨.identifier "f", ⟨1, 5⟩⟩,
      ⟨.symbol .openParen, ⟨1, 6⟩⟩]
    let comma : Token := ⟨.symbol .comma, ⟨1, 7⟩⟩
    let rest : List Token := [⟨.keyword .int, ⟨1, 9⟩⟩, ⟨.identifier "a", ⟨1, 13⟩⟩,
      ⟨.symbol .closeParen, ⟨1, 14⟩⟩, ⟨.symbol .openBrace, ⟨1, 16⟩⟩,
      ⟨.keyword .returnWord, ⟨1, 18⟩⟩, ⟨.symbol .semicolon, ⟨1, 24⟩⟩,
      ⟨.symbol .closeBrace, ⟨1, 26⟩⟩]
    (∃ p p' err, ofSource (Replay.ofTokens ((read ++ comma :: rest) ++ [⟨.endOfFile, ⟨1, 27⟩⟩])) =
        .ok p ∧ p.program = (.error err, p') ∧ p'.lookahead = comma ∧
      err.message = "unexpected ',', expected type" ∧ err.location = ⟨1, 7⟩) ∧
    (∃ s program, IsSentence s program ∧ tokens s = read ++ comma :: rest) ∧
    BeginsText (fun _ => True) (read ++ [comma]) := by
  intro read comma rest
  have hsentence : ∃ s program, IsSentence s program ∧ tokens s = read ++ comma :: rest := by
    have hlist : IsParamList (sym .comma ⟨1, 7⟩ 0 ::
        [key TypeName.int.word ⟨1, 9⟩ 0, ident "a" ⟨1, 13⟩ 0]) [⟨"a", .int, ⟨1, 9⟩⟩] :=
      .more ⟨1, 7⟩ .none (.param ⟨1, 13⟩)
    have hheader : IsHeader IsParamList _ ⟨⟨"f", .int, ⟨1, 1⟩⟩, _⟩ :=
      .header ⟨1, 5⟩ ⟨1, 6⟩ ⟨1, 14⟩ ⟨1, 16⟩ hlist
    have hbody : IsStatements 0 _ [.returnValue none ⟨1, 18⟩] := .one (.returnNone ⟨1, 24⟩)
    exact ⟨_, ⟨_⟩, .one (.function ⟨1, 26⟩ hheader hbody), rfl⟩
  refine ⟨?_, hsentence, ?_⟩
  · have hrun : Progress.Run maxNesting .start
        [key .int ⟨1, 1⟩ 0, ident "f" ⟨1, 5⟩ 0, sym .openParen ⟨1, 6⟩ 0]
        ⟨[], .firstParam ⟨"f", .int, ⟨1, 1⟩⟩⟩ := .next rfl (.next rfl (.single rfl))
    obtain ⟨r, hsource, hlist⟩ :=
      @exists_ofSource_replay ((read ++ comma :: rest) ++ [⟨.endOfFile, ⟨1, 27⟩⟩]) (by simp)
    obtain ⟨r', htakes, hlookahead, -⟩ := @Reader.takes_replay r read _ comma hlist
    have hstops : Stops ⟨[], .firstParam ⟨"f", .int, ⟨1, 1⟩⟩⟩ r'
        (.error ⟨.unexpected (.symbol .comma) .type, r'.lookahead.location⟩, ⟨r', 0⟩) :=
      .refused (by rw [hlookahead]; rfl)
    exact ⟨_, _, _, hsource, run_eq rfl hrun htakes hstops, hlookahead, by rw [hlookahead]; decide,
      by rw [hlookahead]⟩
  · obtain ⟨s, program, hs, htokens⟩ := hsentence
    exact ⟨s, program, ⟨.endOfFile, ⟨1, 27⟩⟩, hs, trivial, rfl, by simp [htokens]⟩

end SyntaxExplorer
