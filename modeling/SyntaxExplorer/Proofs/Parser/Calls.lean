import Mathlib.Data.List.Basic
import SyntaxExplorer.Proofs.Parser.Run
import SyntaxExplorer.Proofs.Progress.Refusal

/-!
# SyntaxExplorer.Proofs.Parser.Calls

**One parser, called again and again.** A parser is its source, one token and the count
of open levels, and a call leaves nothing else behind. What it pulls and where it stops is
said by `Parser.Call`: it stops at the token that its answer is about, or behind the last
token in front of a failure, it never pulls behind the end of the text, and it takes off
the count what it has added to it. So after any number of calls the parser stands behind
the last token that was pulled (`Parser.StandsBehind`) with no level open, and what it
answers from then on is what a new parser in front of this token answers
(`programs_resume_at_lookahead`).
-/

namespace SyntaxExplorer

open Grammar

namespace TokenSource

variable {σ τ : Type} [TokenSource σ] [TokenSource τ]

/-- The two sources answer alike, however often they are asked (`TokenSource.pulls`). -/
def SameAnswers (s : σ) (s' : τ) : Prop := ∀ n, (pulls n s).1 = (pulls n s').1

/-- Sources with `SameAnswers` give the same first answer, and have `SameAnswers` behind it. -/
theorem SameAnswers.pull {s : σ} {s' : τ} (h : SameAnswers s s') :
    (TokenSource.pull s).1 = (TokenSource.pull s').1 ∧
      SameAnswers (TokenSource.pull s).2 (TokenSource.pull s').2 := by
  have hnext : ∀ n, (TokenSource.pull s).1 :: (pulls n (TokenSource.pull s).2).1 =
      (TokenSource.pull s').1 :: (pulls n (TokenSource.pull s').2).1 := fun n => h (n + 1)
  exact ⟨(List.cons.inj (hnext 0)).1, fun n => (List.cons.inj (hnext n)).2⟩

end TokenSource

variable {σ τ : Type} [TokenSource σ] [TokenSource τ]

/-- The tokens of `Reader.Takes` were pulled, all but the first, and the lookahead behind them
was as well. -/
theorem Reader.Takes.exists_pulls {r q : Reader σ} {ts : List Token} (h : r.Takes ts q) :
    ∃ pulled, TokenSource.pulls pulled.length r.source = (pulled.map .ok, q.source) ∧
      r.lookahead :: pulled = ts ++ [q.lookahead] := by
  induction h with
  | done => exact ⟨[], rfl, rfl⟩
  | @next r s' t ts q hpull _ ih =>
      obtain ⟨pulled, hpulls, htokens⟩ := ih
      refine ⟨t :: pulled, ?_, by rw [htokens]; rfl⟩
      simp only [List.length_cons, TokenSource.pulls, hpull, hpulls, List.map_cons]

namespace Parser

/-- The answers to so many calls of `Parser.program`, and the parser afterwards. -/
def programs : Nat → Parser σ → List (Except SyntaxError Program) × Parser σ
  | 0, p => ([], p)
  | n + 1, p =>
    let (answer, p) := p.program
    let (answers, p) := programs n p
    (answer :: answers, p)

/-! ### One call -/

/-- During a call the parser `p` has read the phrase `s`, and `q` is in front of it. -/
structure Reaches (p : Parser σ) (s : Phrase) (place : Progress) (pulled : List Token)
    (q : Reader σ) : Prop where
  run : Progress.Run maxNesting .start s place
  pulls : TokenSource.pulls pulled.length p.source = (pulled.map .ok, q.source)
  tokens : p.lookahead :: pulled = tokens s ++ [q.lookahead]
  /-- No level is open where the call starts. -/
  first : ∀ x ∈ s.head?, x.depth = 0
  levels : NestsWithin maxNesting s
  level : place.stage.depth ≤ maxNesting

theorem reaches_of_run {p : Parser σ} {q : Reader σ} {s : Phrase} {place : Progress}
    (hrun : Progress.Run maxNesting .start s place)
    (htakes : p.toReader.Takes (Grammar.tokens s) q) :
    ∃ pulled, p.Reaches s place pulled q := by
  obtain ⟨pulled, hpulls, htokens⟩ := htakes.exists_pulls
  obtain ⟨hlevels, hlevel⟩ := hrun.nestsWithin (Nat.zero_le _)
  refine ⟨pulled, hrun, hpulls, htokens, ?_, hlevels, hlevel⟩
  cases hrun with
  | done => simp
  | next => simp [Progress.start, Stage.depth]

/-- A call of the parser `p` pulls the answers, and this is what comes of it: whatever it
is, the levels that were opened have been taken off the count again. -/
inductive Call (p : Parser σ) :
    List (Except ScanError Token) → Except SyntaxError Program × Parser σ → Prop
  /-- The lookahead is the end of the text. -/
  | accepted {s place pulled q program} : p.Reaches s place pulled q →
      q.lookahead.isEnd = true → place.stage.depth = 0 →
      Call p (pulled.map .ok) (.ok program, ⟨q, 0⟩)
  /-- The error is located at the lookahead. -/
  | refused {s place pulled q fault} : p.Reaches s place pulled q →
      (fault = .tooDeep ∨ ∃ wanted, fault = .unexpected q.lookahead.lexeme wanted) →
      Call p (pulled.map .ok) (.error ⟨fault, q.lookahead.location⟩, ⟨q, 0⟩)
  /-- The lookahead fits, and the source fails behind it. -/
  | failed {s place pulled q next e s'} : p.Reaches s place pulled q →
      place.step maxNesting q.lookahead = .shift next → next.stage.depth ≤ maxNesting →
      TokenSource.pull q.source = (.error e, s') →
      Call p (pulled.map .ok ++ [.error e])
        (.error (.ofScanError e), ⟨⟨s', q.lookahead⟩, 0⟩)

/-- Every call of `Parser.program` comes to one of the ends of `Parser.Call`. -/
theorem exists_call {p : Parser σ} (hp : p.depth = 0) : ∃ answers, p.Call answers p.program := by
  obtain ⟨s, place, q, hrun, htakes, hstops⟩ := program_spec hp rfl
  obtain ⟨pulled, hreaches⟩ := reaches_of_run hrun htakes
  generalize p.program = result at hstops
  cases hstops with
  | accepted h =>
      obtain ⟨hend, hstage, -⟩ := Progress.step_accept h
      exact ⟨_, .accepted hreaches hend (by rw [hstage]; rfl)⟩
  | refused h =>
      refine ⟨_, .refused hreaches ?_⟩
      cases Progress.refusal_of_step h with
      | unexpected wanted => exact .inr ⟨wanted, rfl⟩
      | tooDeep => exact .inl rfl
  | cut h hpull => exact ⟨_, .failed hreaches h (Progress.depth_of_step h hreaches.level) hpull⟩

/-- What a `Call` pulls is what its answers say, and no more. -/
theorem Call.pulls {p q : Parser σ} {answers : List (Except ScanError Token)}
    {result : Except SyntaxError Program} (h : p.Call answers (result, q)) :
    TokenSource.pulls answers.length p.source = (answers, q.source) := by
  cases h with
  | accepted h | refused h => rw [List.length_map, h.pulls]
  | failed h _ _ hpull =>
      rw [List.length_append, List.length_map, TokenSource.pulls_add, h.pulls]
      simp [TokenSource.pulls, hpull]

/-- Behind a `Call` the `depth` of the parser is zero. -/
theorem Call.depth {p q : Parser σ} {answers : List (Except ScanError Token)}
    {result : Except SyntaxError Program} (h : p.Call answers (result, q)) : q.depth = 0 := by
  cases h <;> rfl

/-! ### All calls -/

/-- The parser `p` stands behind the answers of the source `s`: these were pulled, the
lookahead is the last token of them, and nothing was pulled behind the end of the text. -/
structure StandsBehind (s : σ) (answers : List (Except ScanError Token)) (p : Reader σ) :
    Prop where
  pulls : TokenSource.pulls answers.length s = (answers, p.source)
  lookahead : (answers.filterMap Except.toOption).getLast? = some p.lookahead
  not_end : ∀ t, .ok t ∈ answers.dropLast → t.isEnd = false

namespace StandsBehind

variable {s : σ} {answers : List (Except ScanError Token)} {p : Parser σ} {q r : Reader σ}

theorem ofSource (h : ofSource s = .ok p) : StandsBehind s [.ok p.lookahead] p.toReader :=
  ⟨by simp [TokenSource.pulls, (pull_of_ofSource h).2], rfl, by simp⟩

/-- Unless the lookahead is the end of the text, a reader that `StandsBehind` some answers did
not pull this end at all. -/
theorem isEnd_eq_false (h : StandsBehind s answers r) (hr : r.lookahead.isEnd = false) (t : Token)
    (ht : .ok t ∈ answers) : t.isEnd = false := by
  obtain rfl | ⟨front, last, rfl⟩ := List.eq_nil_or_concat answers
  · cases ht
  · have hnot := h.not_end t
    have hlast := h.lookahead
    simp only [List.concat_eq_append, List.dropLast_concat] at hnot ht hlast
    rcases List.mem_append.1 ht with ht | ht
    · exact hnot ht
    · -- The last answer is a token, so it is the lookahead.
      obtain rfl := List.mem_singleton.1 ht
      rw [List.filterMap_append] at hlast
      simp [Except.toOption] at hlast
      rwa [hlast]

/-- The tokens that a call `Reaches` a place with are pulled behind the answers before. -/
theorem reaches {phrase : Phrase} {place : Progress} {pulled : List Token}
    (h : StandsBehind s answers p.toReader) (hreaches : p.Reaches phrase place pulled q) :
    StandsBehind s (answers ++ pulled.map .ok) q := by
  refine ⟨?_, ?_, ?_⟩
  · rw [List.length_append, List.length_map, TokenSource.pulls_add, h.pulls, hreaches.pulls]
  · obtain ⟨front, hfront⟩ := List.getLast?_eq_some_iff.1 h.lookahead
    have hoks : (pulled.map Except.ok : List (Except ScanError Token)).filterMap
        Except.toOption = pulled := by
      simp [List.filterMap_map, Function.comp_def, Except.toOption]
    rw [List.filterMap_append, hfront, hoks, List.append_assoc, List.singleton_append,
      hreaches.tokens, ← List.append_assoc, List.getLast?_concat]
  · intro t ht
    by_cases hpulled : pulled = []
    · subst hpulled
      rw [List.map_nil, List.append_nil] at ht
      exact h.not_end t ht
    · -- All but the last one of these tokens have been read.
      have hread : p.lookahead :: pulled.dropLast = tokens phrase := by
        have hdrop := congrArg List.dropLast hreaches.tokens
        rwa [List.dropLast_cons_of_ne_nil hpulled, List.dropLast_concat] at hdrop
      have hnot := hreaches.run.isEnd_eq_false
      rw [← hread, List.forall_mem_cons] at hnot
      rw [List.dropLast_append_of_ne_nil (by simpa using hpulled), List.mem_append,
        ← List.map_dropLast] at ht
      rcases ht with ht | ht
      · exact h.isEnd_eq_false hnot.1 t ht
      · obtain ⟨u, hu, heq⟩ := List.mem_map.1 ht
        obtain rfl := Except.ok.inj heq
        exact hnot.2 u hu

/-- A failure of the source is pulled behind the answers before, and the lookahead stays. -/
theorem failure {e : ScanError} {s' : σ} (h : StandsBehind s answers r)
    (hr : r.lookahead.isEnd = false) (hpull : TokenSource.pull r.source = (.error e, s')) :
    StandsBehind s (answers ++ [.error e]) ⟨s', r.lookahead⟩ := by
  refine ⟨?_, ?_, ?_⟩
  · rw [List.length_append, TokenSource.pulls_add, h.pulls]
    simp [TokenSource.pulls, hpull]
  · rw [List.filterMap_append]
    simpa [Except.toOption] using h.lookahead
  · rw [List.dropLast_concat]
    exact h.isEnd_eq_false hr

/-- Behind a `Call` the parser `StandsBehind` the answers that the call pulled. -/
theorem call {p' : Parser σ} {more : List (Except ScanError Token)}
    {result : Except SyntaxError Program} (h : StandsBehind s answers p.toReader)
    (hcall : p.Call more (result, p')) : StandsBehind s (answers ++ more) p'.toReader := by
  cases hcall with
  | accepted hreaches | refused hreaches => exact h.reaches hreaches
  | failed hreaches hshift _ hpull =>
      rw [← List.append_assoc]
      exact (h.reaches hreaches).failure (Progress.isEnd_eq_false_of_step hshift) hpull

end StandsBehind

theorem programs_succ (n : Nat) (p : Parser σ) :
    p.programs (n + 1) =
      ((p.programs n).1 ++ [(p.programs n).2.program.1], (p.programs n).2.program.2) := by
  induction n generalizing p with
  | zero => rfl
  | succ n ih =>
      show (p.program.1 :: (p.program.2.programs (n + 1)).1, (p.program.2.programs (n + 1)).2) = _
      rw [ih]
      rfl

/-- However often a parser has been called, its `depth` is zero again. -/
theorem depth_programs {p : Parser σ} (hp : p.depth = 0) (n : Nat) :
    (p.programs n).2.depth = 0 := by
  induction n with
  | zero => exact hp
  | succ n ih =>
      obtain ⟨answers, hcall⟩ := exists_call ih
      rw [programs_succ]
      exact hcall.depth

/-- After any number of calls the parser `StandsBehind` some answers of its source. -/
theorem exists_standsBehind {s : σ} {p : Parser σ} (h : ofSource s = .ok p) (n : Nat) :
    ∃ answers, StandsBehind s answers (p.programs n).2.toReader := by
  induction n with
  | zero => exact ⟨_, .ofSource h⟩
  | succ n ih =>
      obtain ⟨answers, hbehind⟩ := ih
      obtain ⟨more, hcall⟩ := exists_call (depth_programs (pull_of_ofSource h).1 n)
      rw [programs_succ]
      exact ⟨_, hbehind.call hcall⟩

/-! ### Nothing else is left behind -/

/-- The two parsers have the same `lookahead` and the same `depth`, and behind the lookahead
their sources answer alike (`TokenSource.SameAnswers`). -/
structure Alike (p : Parser σ) (q : Parser τ) : Prop where
  lookahead : p.lookahead = q.lookahead
  depth : p.depth = q.depth
  source : TokenSource.SameAnswers p.source q.source

/-- Parsers that are `Alike` pull the same answer, and their sources answer alike behind it. -/
theorem Alike.exists_pull {p : Parser σ} {q : Parser τ} {answer : Except ScanError Token} {s : σ}
    (h : p.Alike q) (hpull : TokenSource.pull p.source = (answer, s)) :
    ∃ r, TokenSource.pull q.source = (answer, r) ∧ TokenSource.SameAnswers s r := by
  obtain ⟨hfirst, hrest⟩ := h.source.pull
  rw [hpull] at hfirst hrest
  exact ⟨_, Prod.ext hfirst.symm rfl, hrest⟩

theorem Alike.depthBehind {p : Parser σ} {q : Parser τ} (h : p.Alike q) (progress : Progress) :
    p.depthBehind progress = q.depthBehind progress := by
  rw [Parser.depthBehind, Parser.depthBehind, h.lookahead, h.depth]

/-- Parsers that are `Alike` answer alike with `Parser.run`, and stay `Alike`. -/
theorem Alike.run {p : Parser σ} {q : Parser τ} (h : p.Alike q) (progress : Progress) :
    (p.run progress).1 = (q.run progress).1 ∧ (p.run progress).2.Alike (q.run progress).2 := by
  fun_induction Parser.run progress p generalizing q with
  | case1 progress p program hadvance =>
      rw [h.lookahead, h.depth] at hadvance
      rw [run_of_accept hadvance]
      exact ⟨rfl, h⟩
  | case2 progress p fault hadvance =>
      rw [h.lookahead, h.depth] at hadvance
      rw [run_of_reject hadvance, h.lookahead, h.depth]
      exact ⟨rfl, h.lookahead, rfl, h.source⟩
  | case3 progress p next hadvance e s' hpull =>
      obtain ⟨r, hpull', hrest⟩ := h.exists_pull hpull
      rw [h.lookahead, h.depth] at hadvance
      rw [run_of_cut hadvance hpull', h.depthBehind]
      exact ⟨rfl, h.lookahead, rfl, hrest⟩
  | case4 progress p next hadvance t s' hpull ih =>
      obtain ⟨r, hpull', hrest⟩ := h.exists_pull hpull
      rw [h.lookahead, h.depth] at hadvance
      rw [run_of_shift hadvance hpull']
      exact ih ⟨rfl, h.depthBehind progress, hrest⟩

theorem Alike.programs {p : Parser σ} {q : Parser τ} (h : p.Alike q) (n : Nat) :
    (p.programs n).1 = (q.programs n).1 ∧ (p.programs n).2.Alike (q.programs n).2 := by
  induction n with
  | zero => exact ⟨rfl, h⟩
  | succ n ih =>
      obtain ⟨hanswer, halike⟩ := ih.2.run .start
      rw [programs_succ, programs_succ]
      exact ⟨by rw [ih.1, program, program, hanswer], halike⟩

/-- **A call leaves nothing behind but the source and the lookahead.** After any number of
calls, `Parser.programs`, the parser `q` stands behind some answers of its source
(`StandsBehind`): the lookahead is the last token among them, and none was pulled behind the
end of the text. Its count of open levels, `Parser.depth`, is zero, and so it is behind the
next call, successful or not; wherever that call comes to (`Comes`), the count is the number
of levels open there, and never above `maxNesting`. The next call pulls what its answer is
about and no more (`Call`). And it answers, like all calls behind it, what a new parser
answers that has the same lookahead, if its source answers alike from there on
(`TokenSource.SameAnswers`). -/
theorem programs_resume_at_lookahead {s : σ} {p : Parser σ} (h : ofSource s = .ok p) (n : Nat) :
    let q := (p.programs n).2
    (∃ answers, StandsBehind s answers q.toReader) ∧
      (q.depth = 0 ∧ q.program.2.depth = 0 ∧
        ∀ place r, q.Comes place r → r.depth = place.stage.depth ∧ r.depth ≤ maxNesting ∧
          ∀ next, place.advance maxNesting r.depth r.lookahead = .shift next →
            r.depthBehind place ≤ maxNesting) ∧
      (∃ answers, q.Call answers q.program ∧
        TokenSource.pulls answers.length q.source = (answers, q.program.2.source)) ∧
      ∀ {τ : Type} [TokenSource τ] {r : τ} {fresh : Parser τ}, ofSource r = .ok fresh →
        fresh.lookahead = q.lookahead → TokenSource.SameAnswers fresh.source q.source →
        ∀ m, (fresh.programs m).1 = (q.programs m).1 := by
  intro q
  have hdepth : q.depth = 0 := depth_programs (pull_of_ofSource h).1 n
  obtain ⟨answers, hcall⟩ := exists_call hdepth
  refine ⟨exists_standsBehind h n, ⟨hdepth, hcall.depth, fun place r => depth_of_comes hdepth⟩,
    ⟨answers, hcall, hcall.pulls⟩, ?_⟩
  intro τ _ r fresh hfresh hlookahead hsame m
  have hzero : fresh.depth = q.depth := (pull_of_ofSource hfresh).1.trans hdepth.symm
  exact (Alike.programs ⟨hlookahead, hzero, hsame⟩ m).1

end Parser

/-! ### Sources that fail -/

/-- A `TokenSource` that is given by its answers, and hands out the end of the text behind
them, for ever. -/
structure Script where
  answers : List (Except ScanError Token)
  last : Location
  deriving DecidableEq

namespace Script

def next (s : Script) : Except ScanError Token × Script :=
  match s.answers with
  | [] => (.ok ⟨.endOfFile, s.last⟩, s)
  | answer :: answers => (answer, ⟨answers, s.last⟩)

instance : TokenSource Script where
  pull := next
  remaining s := s.answers.length
  remaining_pull {s t s'} h := by
    obtain ⟨answers, last⟩ := s
    cases answers with
    | nil =>
        cases h
        exact Nat.le_refl _
    | cons answer answers =>
        cases h
        simp only [List.length_cons]
        split <;> omega

/-- A type, and a semicolon behind a failure. -/
def interrupted : Script :=
  ⟨[.ok ⟨.keyword .int, ⟨1, 1⟩⟩, .error ⟨.unexpectedCharacter '@', ⟨1, 5⟩⟩,
    .ok ⟨.symbol .semicolon, ⟨1, 6⟩⟩], ⟨1, 7⟩⟩

/-- The first call ends at the failure. The second one goes on with the same type, like a
new parser in front of it, and ends at the semicolon, where the third one starts. -/
theorem programs_interrupted :
    ∃ p fresh, Parser.ofSource interrupted = .ok p ∧
      Parser.ofSource (⟨[.ok ⟨.keyword .int, ⟨1, 1⟩⟩, .ok ⟨.symbol .semicolon, ⟨1, 6⟩⟩], ⟨1, 7⟩⟩ :
        Script) = .ok fresh ∧
      (p.programs 3).1 = [.error ⟨.scan (.unexpectedCharacter '@'), ⟨1, 5⟩⟩,
        .error ⟨.unexpected (.symbol .semicolon) .identifier, ⟨1, 6⟩⟩,
        .error ⟨.unexpected (.symbol .semicolon) .type, ⟨1, 6⟩⟩] ∧
      (∃ answers, Parser.StandsBehind interrupted answers (p.programs 1).2.toReader) ∧
      (p.programs 1).2.depth = 0 ∧
      ∀ m, (fresh.programs m).1 = ((p.programs 1).2.programs m).1 := by
  have hresumed : Parser.ofSource (⟨[.ok ⟨.keyword .int, ⟨1, 1⟩⟩,
      .ok ⟨.symbol .semicolon, ⟨1, 6⟩⟩], ⟨1, 7⟩⟩ : Script) =
      .ok ⟨⟨⟨[.ok ⟨.symbol .semicolon, ⟨1, 6⟩⟩], ⟨1, 7⟩⟩, ⟨.keyword .int, ⟨1, 1⟩⟩⟩, 0⟩ := rfl
  refine ⟨_, _, rfl, hresumed, by decide +kernel, ?_⟩
  obtain ⟨hbehind, ⟨hdepth, -⟩, -, hfresh⟩ :=
    Parser.programs_resume_at_lookahead (s := interrupted) rfl 1
  refine ⟨hbehind, hdepth, hfresh hresumed (by decide +kernel) ?_⟩
  -- The failure was pulled, and the semicolon was not.
  have hsource : (Parser.programs 1 (⟨⟨⟨interrupted.answers.tail, ⟨1, 7⟩⟩,
      ⟨.keyword .int, ⟨1, 1⟩⟩⟩, 0⟩ : Parser Script)).2.source =
      ⟨[.ok ⟨.symbol .semicolon, ⟨1, 6⟩⟩], ⟨1, 7⟩⟩ := by
    decide +kernel
  intro n
  exact congrArg (fun s => (TokenSource.pulls n s).1) hsource.symm

end Script

end SyntaxExplorer
