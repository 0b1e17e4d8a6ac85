import SyntaxExplorer.Proofs.Progress.Refusal
import SyntaxExplorer.Proofs.Token.Source

/-!
# SyntaxExplorer.Proofs.Parser.Run

**What a parser does with its source.** It takes the tokens of a phrase, each
followed by a pull (`Reader.Takes`), and stops for one of three reasons
(`Parser.Stops`): the text is over, the lookahead is refused, or the source
fails. `Parser.run_spec` says so of every call, and `Parser.run_eq` that the
first such stop is the answer.

A parser goes by its own count of open levels, `Parser.depth`. Where a call has
come to, this is the number of levels that are open there (`depth_of_comes`), and
behind the call it is zero, whatever the answer was: `Parser.Stops` says so of
every stop.

How the taken tokens and what the source hands out make up each other is said
once for every source (`Reader.Takes.drain_eq`), and once more for a list of
tokens that is replayed, where it is plain concatenation.
-/

namespace SyntaxExplorer

open Grammar

variable {σ : Type}

/-! ### The count of open levels -/

namespace Parser

variable {progress next : Progress} {p : Parser σ}

/-- A parser whose `depth` is that of the stage decides by the stage (`Progress.step`). -/
theorem step_eq_advance (hp : p.depth = progress.stage.depth) (t : Token) :
    progress.step maxNesting t = progress.advance maxNesting p.depth t := by
  rw [hp, Progress.step]

/-- **Counting goes on.** A parser that counts the open levels in front of a token that
fits counts them behind it (`Parser.depthBehind`). -/
theorem depthBehind_eq (hp : p.depth = progress.stage.depth)
    (h : progress.step maxNesting p.lookahead = .shift next) :
    p.depthBehind progress = next.stage.depth := by
  rw [depthBehind, hp, (Progress.nests_of_step h).depth_eq]

/-- `Stage.leave`, which an error goes through, takes off all levels that are open. -/
theorem leave_eq_zero {stage : Stage} {depth : Nat} (h : depth = stage.depth) :
    stage.leave depth = 0 := by
  rw [Stage.leave_eq, h, Nat.sub_self]

end Parser

variable [TokenSource σ]

/-- The tokens are, one after the other, the lookahead of a reader, and behind
each of them the source is pulled. -/
inductive Reader.Takes : Reader σ → List Token → Reader σ → Prop
  | done {r} : Takes r [] r
  | next {r : Reader σ} {s' t ts q} : TokenSource.pull r.source = (.ok t, s') →
      Takes ⟨s', t⟩ ts q → Takes r (r.lookahead :: ts) q

namespace Parser

/-- The answer at the token in front of which a reader has reached `q`, and the
parser afterwards: no level is counted as open any more. -/
inductive Stops (q : Progress) (r : Reader σ) : Except SyntaxError Program × Parser σ → Prop
  | accepted {program} : q.step maxNesting r.lookahead = .accept program →
      Stops q r (.ok program, ⟨r, 0⟩)
  | refused {fault} : q.step maxNesting r.lookahead = .reject fault →
      Stops q r (.error ⟨fault, r.lookahead.location⟩, ⟨r, 0⟩)
  /-- The lookahead fits, and nothing comes behind it. -/
  | cut {next e s'} : q.step maxNesting r.lookahead = .shift next →
      TokenSource.pull r.source = (.error e, s') →
      Stops q r (.error (.ofScanError e), ⟨⟨s', r.lookahead⟩, 0⟩)

/-! ### One token of a call -/

section

variable {progress next : Progress} {p : Parser σ}

theorem run_of_accept {program : Program}
    (h : progress.advance maxNesting p.depth p.lookahead = .accept program) :
    p.run progress = (.ok program, p) := by
  rw [run, h]

theorem run_of_reject {fault : SyntaxFault}
    (h : progress.advance maxNesting p.depth p.lookahead = .reject fault) :
    p.run progress = (.error ⟨fault, p.lookahead.location⟩,
      ⟨p.toReader, progress.stage.leave p.depth⟩) := by
  rw [run, h]

theorem run_of_cut {e : ScanError} {s : σ}
    (h : progress.advance maxNesting p.depth p.lookahead = .shift next)
    (hpull : TokenSource.pull p.source = (.error e, s)) :
    p.run progress = (.error (.ofScanError e),
      ⟨⟨s, p.lookahead⟩, next.stage.leave (p.depthBehind progress)⟩) := by
  rw [run, h, hpull]

/-- Behind a token that fits, `Parser.run` goes on with the next one. -/
theorem run_of_shift {t : Token} {s : σ}
    (h : progress.advance maxNesting p.depth p.lookahead = .shift next)
    (hpull : TokenSource.pull p.source = (.ok t, s)) :
    p.run progress = run next ⟨⟨s, t⟩, p.depthBehind progress⟩ := by
  rw [run, h, hpull]

end

/-! ### A whole call -/

/-- `Parser.run` takes the tokens of a `Progress.Run` and stops behind them (`Stops`). -/
theorem run_spec {progress : Progress} {p : Parser σ} (hp : p.depth = progress.stage.depth) :
    ∃ s q r, progress.Run maxNesting s q ∧ p.toReader.Takes (tokens s) r ∧
      Stops q r (p.run progress) := by
  fun_induction Parser.run progress p with
  | case1 progress p program h =>
      rw [← step_eq_advance hp] at h
      have hzero : p.depth = 0 := by rw [hp, (Progress.step_accept h).2.1, Stage.depth]
      have hstops := Stops.accepted (r := p.toReader) h
      rw [← hzero] at hstops
      exact ⟨[], progress, p.toReader, .done, .done, hstops⟩
  | case2 progress p fault h =>
      rw [← step_eq_advance hp] at h
      rw [leave_eq_zero hp]
      exact ⟨[], progress, p.toReader, .done, .done, .refused h⟩
  | case3 progress p next h e s' hpull =>
      rw [← step_eq_advance hp] at h
      rw [leave_eq_zero (depthBehind_eq hp h)]
      exact ⟨[], progress, p.toReader, .done, .done, .cut h hpull⟩
  | case4 progress p next h t s' hpull ih =>
      rw [← step_eq_advance hp] at h
      obtain ⟨s, q, r, hrun, htakes, hstops⟩ := ih (depthBehind_eq hp h)
      exact ⟨_, q, r, .next h hrun, .next hpull htakes, hstops⟩

theorem program_spec {p : Parser σ} {answer : Except SyntaxError Program × Parser σ}
    (hp : p.depth = 0) (h : p.program = answer) :
    ∃ s q r, Progress.Run maxNesting .start s q ∧ p.toReader.Takes (tokens s) r ∧
      Stops q r answer := by
  rw [← h]
  exact @run_spec σ _ .start p hp

/-- Where `Parser.run` stops is determined: any of its `Stops` behind the tokens of a
`Progress.Run` is the answer. -/
theorem run_eq {progress q : Progress} {p : Parser σ} {r : Reader σ} {s : Phrase}
    {result : Except SyntaxError Program × Parser σ} (hp : p.depth = progress.stage.depth)
    (hrun : progress.Run maxNesting s q) (htakes : p.toReader.Takes (tokens s) r)
    (hstops : Stops q r result) : p.run progress = result := by
  induction hrun generalizing p with
  | done =>
      cases htakes
      cases hstops with
      | accepted h =>
          have hzero : p.depth = 0 := by rw [hp, (Progress.step_accept h).2.1, Stage.depth]
          rw [run_of_accept ((step_eq_advance hp _).symm.trans h), ← hzero]
      | refused h =>
          rw [run_of_reject ((step_eq_advance hp _).symm.trans h), leave_eq_zero hp]
      | cut h hpull =>
          rw [run_of_cut ((step_eq_advance hp _).symm.trans h) hpull,
            leave_eq_zero (depthBehind_eq hp h)]
  | next hs _ ih =>
      cases htakes with
      | next hpull hrest =>
          rw [run_of_shift ((step_eq_advance hp _).symm.trans hs) hpull]
          exact ih (depthBehind_eq hp hs) hrest hstops

/-! ### What a call comes through -/

/-- A call of `program` comes to the parser `q`, where it has read `place`. -/
inductive Comes (p : Parser σ) : Progress → Parser σ → Prop
  | start : Comes p .start p
  | next {place next : Progress} {q : Parser σ} {t : Token} {s : σ} : Comes p place q →
      place.advance maxNesting q.depth q.lookahead = .shift next →
      TokenSource.pull q.source = (.ok t, s) →
      Comes p next ⟨⟨s, t⟩, q.depthBehind place⟩

/-- `Parser.program` goes on from where it `Comes` to. -/
theorem run_of_comes {p q : Parser σ} {place : Progress} (h : p.Comes place q) :
    p.program = q.run place := by
  induction h with
  | start => rfl
  | next _ hshift hpull ih => rw [ih, run_of_shift hshift hpull]

/-- **The count `depth` is right all through a call**, and never above `maxNesting`: neither in
front of a token nor behind one that fits. -/
theorem depth_of_comes {p q : Parser σ} {place : Progress} (hp : p.depth = 0)
    (h : p.Comes place q) :
    q.depth = place.stage.depth ∧ q.depth ≤ maxNesting ∧
      ∀ next, place.advance maxNesting q.depth q.lookahead = .shift next →
        q.depthBehind place ≤ maxNesting := by
  have hbehind : ∀ {place : Progress} {q : Parser σ}, q.depth = place.stage.depth →
      q.depth ≤ maxNesting → ∀ next,
        place.advance maxNesting q.depth q.lookahead = .shift next →
          q.depthBehind place = next.stage.depth ∧ q.depthBehind place ≤ maxNesting := by
    intro place q heq hle next hshift
    rw [← step_eq_advance heq] at hshift
    have hdepth := depthBehind_eq heq hshift
    exact ⟨hdepth, hdepth ▸ Progress.depth_of_step hshift (heq ▸ hle)⟩
  have hhere : q.depth = place.stage.depth ∧ q.depth ≤ maxNesting := by
    induction h with
    | start => exact ⟨hp, hp ▸ Nat.zero_le _⟩
    | next _ hshift _ ih => exact hbehind ih.1 ih.2 _ hshift
  exact ⟨hhere.1, hhere.2, fun next hshift => (hbehind hhere.1 hhere.2 next hshift).2⟩

end Parser

/-! ### What is still to be read -/

namespace Reader

/-- What a reader has in front of it: the lookahead and, unless that is the end
of the text, what the source hands out. -/
def drain (r : Reader σ) : TokenSource.Drained :=
  if r.lookahead.isEnd then ⟨[r.lookahead], none⟩
  else ⟨r.lookahead :: (TokenSource.drain r.source).tokens, (TokenSource.drain r.source).error⟩

theorem drain_of_isEnd {r : Reader σ} (h : r.lookahead.isEnd = true) :
    r.drain = ⟨[r.lookahead], none⟩ := by
  rw [drain, if_pos h]

theorem drain_of_not_isEnd {r : Reader σ} (h : r.lookahead.isEnd = false) :
    r.drain =
      ⟨r.lookahead :: (TokenSource.drain r.source).tokens,
        (TokenSource.drain r.source).error⟩ := by
  rw [drain, if_neg (by simp [h])]

/-- The `lookahead` comes first in `Reader.drain`. -/
theorem exists_drain_tokens (r : Reader σ) : ∃ ts, r.drain.tokens = r.lookahead :: ts := by
  cases h : r.lookahead.isEnd with
  | true => exact ⟨[], by rw [drain_of_isEnd h]⟩
  | false => exact ⟨_, by rw [drain_of_not_isEnd h]⟩

theorem drain_of_pull {s s' : σ} {t : Token} (h : TokenSource.pull s = (.ok t, s')) :
    TokenSource.drain s = drain ⟨s', t⟩ := by
  cases ht : t.isEnd with
  | true => rw [TokenSource.drain_of_end h ht, drain_of_isEnd ht]
  | false => rw [TokenSource.drain_of_token h ht, drain_of_not_isEnd ht]

/-- The tokens of `Reader.Takes` are the first of those in front of the reader
(`Reader.drain`). -/
theorem Takes.drain_eq {r q : Reader σ} {ts : List Token} (h : Takes r ts q)
    (hts : ∀ t ∈ ts, t.isEnd = false) :
    r.drain = ⟨ts ++ q.drain.tokens, q.drain.error⟩ := by
  induction h with
  | done => rfl
  | next hpull _ ih =>
      rw [List.forall_mem_cons] at hts
      rw [drain_of_not_isEnd hts.1, drain_of_pull hpull, ih hts.2]
      rfl

/-- The tokens in front of a reader (`Reader.drain`) can be taken. -/
theorem exists_takes {r : Reader σ} {ts rest : List Token} {t : Token} {error : Option ScanError}
    (h : r.drain = ⟨ts ++ t :: rest, error⟩) :
    ∃ q, r.Takes ts q ∧ q.lookahead = t ∧ q.drain = ⟨t :: rest, error⟩ := by
  induction ts generalizing r with
  | nil =>
      obtain ⟨us, hus⟩ := r.exists_drain_tokens
      rw [h] at hus
      exact ⟨r, .done, (List.cons.inj hus).1.symm, h⟩
  | cons u ts ih =>
      cases hend : r.lookahead.isEnd with
      | true =>
          rw [drain_of_isEnd hend] at h
          simp at h
      | false =>
          rw [drain_of_not_isEnd hend, List.cons_append, TokenSource.Drained.mk.injEq,
            List.cons.injEq] at h
          obtain ⟨⟨rfl, htokens⟩, herror⟩ := h
          have hrest : TokenSource.drain r.source = ⟨ts ++ t :: rest, error⟩ := by
            rw [← htokens, ← herror]
          obtain ⟨u, us, hus⟩ := List.exists_cons_of_ne_nil (l := ts ++ t :: rest) (by simp)
          obtain ⟨s', hpull⟩ := TokenSource.exists_pull_of_drain_cons (hus ▸ hrest)
          obtain ⟨q, htakes, hq⟩ := ih ((drain_of_pull hpull).symm.trans hrest)
          exact ⟨q, .next hpull htakes, hq⟩

end Reader

namespace Parser

/-- The `depth` of a new parser is zero, and it has pulled its `lookahead`. -/
theorem pull_of_ofSource {s : σ} {p : Parser σ} (h : ofSource s = .ok p) :
    p.depth = 0 ∧ TokenSource.pull s = (.ok p.lookahead, p.source) := by
  unfold ofSource at h
  split at h <;> cases h
  exact ⟨rfl, ‹_›⟩

/-- A new parser has all that `TokenSource.drain` hands out in front of it. -/
theorem drain_ofSource {s : σ} {p : Parser σ} (h : ofSource s = .ok p) :
    TokenSource.drain s = p.drain :=
  Reader.drain_of_pull (pull_of_ofSource h).2

/-- A new parser can take the tokens of its source. -/
theorem exists_takes_of_drain {s : σ} {ts rest : List Token} {t : Token}
    {error : Option ScanError} (h : TokenSource.drain s = ⟨ts ++ t :: rest, error⟩) :
    ∃ r q : Reader σ, ofSource s = .ok ⟨r, 0⟩ ∧ r.Takes ts q ∧ q.lookahead = t ∧
      q.drain = ⟨t :: rest, error⟩ := by
  obtain ⟨u, us, hus⟩ := List.exists_cons_of_ne_nil (l := ts ++ t :: rest) (by simp)
  obtain ⟨s', hpull⟩ := TokenSource.exists_pull_of_drain_cons (hus ▸ h)
  obtain ⟨q, hq⟩ := Reader.exists_takes ((Reader.drain_of_pull hpull).symm.trans h)
  exact ⟨⟨s', u⟩, q, by simp only [ofSource, hpull], hq⟩

end Parser

/-! ### Whole texts -/

theorem parse_of_ofSource {s : σ} {p : Parser σ}
    (h : Parser.ofSource s = .ok p) : (parse s).1 = p.program.1 := by
  simp only [parse, h]

theorem parse_of_error {s s' : σ} {e : ScanError}
    (h : TokenSource.pull s = (.error e, s')) : (parse s).1 = .error (.ofScanError e) := by
  simp only [parse, Parser.ofSource, h]

/-- Whether a certain program is read is found out by evaluating: options of programs can
be compared. -/
theorem parse_of_toOption {s : σ} {p : Program}
    (h : (parse s).1.toOption = some p) : (parse s).1 = .ok p := by
  generalize (parse s).1 = result at h
  cases result with
  | error e => cases h
  | ok q => exact congrArg Except.ok (Option.some.inj h)

namespace Parser

/-! ### Replayed tokens -/

/-- A parser of a `Replay` starts with the first token of its list. -/
theorem exists_ofSource_replay {ts : List Token} (h : ts ≠ []) :
    ∃ r : Reader Replay, ofSource (Replay.ofTokens ts) = .ok ⟨r, 0⟩ ∧
      r.lookahead :: r.source.tokens = ts := by
  obtain ⟨t, ts, rfl⟩ := List.exists_cons_of_ne_nil h
  exact ⟨⟨⟨ts, t.location⟩, t⟩, rfl, rfl⟩

theorem ofSource_replay_eq {ts : List Token} {p : Parser Replay} (hne : ts ≠ [])
    (h : ofSource (Replay.ofTokens ts) = .ok p) : p.lookahead :: p.source.tokens = ts := by
  obtain ⟨r, h', hlist⟩ := exists_ofSource_replay hne
  obtain rfl : ⟨r, 0⟩ = p := Except.ok.inj (h'.symm.trans h)
  exact hlist

end Parser

namespace Reader

/-- The tokens of a `Replay` can be taken as far as its list goes. -/
theorem takes_replay {r : Reader Replay} {ts rest : List Token} {t : Token}
    (h : r.lookahead :: r.source.tokens = ts ++ t :: rest) :
    ∃ q : Reader Replay, r.Takes ts q ∧ q.lookahead = t ∧ q.source.tokens = rest := by
  induction ts generalizing r with
  | nil => exact ⟨r, .done, List.cons.inj h⟩
  | cons u ts ih =>
      obtain ⟨⟨us, last⟩, lookahead⟩ := r
      obtain ⟨rfl, hrest⟩ := List.cons.inj h
      cases us with
      | nil => simp at hrest
      | cons v us =>
          obtain ⟨q, htakes, hq⟩ := ih (r := ⟨⟨us, v.location⟩, v⟩) hrest
          exact ⟨q, .next rfl htakes, hq⟩

/-- What is taken of a `Replay` and what is left of it make up its list, if the end of the text
stands there. -/
theorem Takes.exists_replay {r q : Reader Replay} {ts us : List Token} {last : Token}
    (h : r.Takes us q) (hus : ∀ u ∈ us, u.isEnd = false) (hlast : last.isEnd = true)
    (hr : r.lookahead :: r.source.tokens = ts ++ [last]) :
    ∃ rest, ts = us ++ rest ∧ q.lookahead :: q.source.tokens = rest ++ [last] := by
  induction h generalizing ts with
  | done => exact ⟨ts, rfl, hr⟩
  | @next r s' t us q hpull _ ih =>
      rw [List.forall_mem_cons] at hus
      obtain ⟨⟨vs, here⟩, lookahead⟩ := r
      cases ts with
      | nil =>
          obtain ⟨rfl, -⟩ := List.cons.inj hr
          simp [hlast] at hus
      | cons u ts =>
          -- The end of the text is still to come, so the list is not used up.
          obtain ⟨rfl, hvs⟩ := List.cons.inj hr
          obtain ⟨v, vs, rfl⟩ : ∃ v rest, vs = v :: rest :=
            List.exists_cons_of_ne_nil (by rw [show vs = _ from hvs]; simp)
          cases hpull
          obtain ⟨rest, rfl, hq⟩ := ih hus.2 hvs
          exact ⟨rest, rfl, hq⟩

end Reader

end SyntaxExplorer
