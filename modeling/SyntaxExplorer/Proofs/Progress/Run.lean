import SyntaxExplorer.Parser
import SyntaxExplorer.Proofs.Grammar

/-!
# SyntaxExplorer.Proofs.Progress.Run

**Reading a phrase.** The levels that are open can be read off a stage
(`Stage.depth`), and a token changes their number as `Stage.nesting` says
(`depth_of_step`). So counting them is the same as looking at the stage, which is
what `Progress.step` does. `Progress.Run limit p s q` says that the tokens of the
phrase `s`, one `Progress.step` each, lead from `p` to `q`, and that the depths
of the phrase are the numbers of levels open at the stages passed through.

A token leads to one place only, so the tokens determine the phrase and the
place it leads to (`Run.eq_of_tokens`), and a run can be cut anywhere
(`Run.split`). The limit shows in one way: a step that it does not refuse is the
same with every greater limit (`step_eq_or_tooDeep`).
-/

namespace SyntaxExplorer

open Grammar

/-- The number of blocks that are open at a `Site`. -/
def Site.depth : Site → Nat
  | body .. => 0
  | block _ _ outer => outer.depth + 1

/-- The number of levels open at a `Stage`: blocks, and parentheses of an expression. -/
def Stage.depth : Stage → Nat
  | .definition | .functionName .. | .paramsOpen .. | .firstParam .. | .param ..
  | .paramName .. | .paramsNext .. | .bodyOpen .. => 0
  | .firstStatement site | .nextStatement site | .declaredName _ _ site
  | .initializer _ _ _ site | .assignSign _ _ site | .ifOpen _ site | .whileOpen _ site
  | .returned _ site | .blockOpen _ site | .thenClosed _ _ _ site => site.depth
  | .factor e site | .operator e _ site => site.depth + e.outer.length

@[simp] theorem Site.depth_behind (s : Statement) (site : Site) :
    (site.behind s).depth = site.depth := by
  cases site <;> rfl

/-- `Site.leave` takes off as many levels as there are open blocks. -/
theorem Site.leave_eq (site : Site) (depth : Nat) : site.leave depth = depth - site.depth := by
  induction site generalizing depth with
  | body => rfl
  | block owner before outer ih =>
      rw [leave, ih, Site.depth]
      omega

/-- `Stage.leave` takes off as many levels as are open (`Stage.depth`). -/
theorem Stage.leave_eq (stage : Stage) (depth : Nat) : stage.leave depth = depth - stage.depth := by
  have hlevels : ∀ (outer : List Operands) (depth : Nat),
      outer.foldl (fun depth _ => depth - 1) depth = depth - outer.length := by
    intro outer
    induction outer with
    | nil => exact fun _ => rfl
    | cons around outer ih =>
        intro depth
        rw [List.foldl_cons, ih, List.length_cons]
        omega
  cases stage with
  | factor | operator =>
      simp only [leave, Stage.depth, Site.leave_eq, hlevels]
      omega
  | _ => first | rfl | exact Site.leave_eq _ _

namespace Progress

/-- What the token `t` leads to, where at most `limit` levels may be open and as many are
counted as there are: `Progress.advance` at the depth of the stage. -/
def step (limit : Nat) (p : Progress) (t : Token) : Outcome := p.advance limit p.stage.depth t

/-- `Progress.step` never shifts the end of the text. -/
theorem isEnd_eq_false_of_step {limit : Nat} {p q : Progress} {t : Token}
    (h : p.step limit t = .shift q) : t.isEnd = false :=
  isEnd_eq_false_of_advance h

/-- The tokens of the phrase lead from the first progress to the second, by `Progress.step`. -/
inductive Run (limit : Nat) : Progress → Phrase → Progress → Prop
  | done {p} : Run limit p [] p
  | next {p q r t s} : p.step limit t = .shift q → Run limit q s r →
      Run limit p (⟨t, p.stage.depth⟩ :: s) r

variable {limit : Nat}

namespace Run

theorem single {p q : Progress} {t : Token} (h : p.step limit t = .shift q) :
    Run limit p [⟨t, p.stage.depth⟩] q :=
  .next h .done

theorem append {p q r : Progress} {s u : Phrase} (h : Run limit p s q)
    (h' : Run limit q u r) : Run limit p (s ++ u) r := by
  induction h with
  | done => exact h'
  | next hs _ ih => exact .next hs (ih h')

/-- A `Run` over two phrases passes through a place between them. -/
theorem split {p r : Progress} {s u : Phrase} (h : Run limit p (s ++ u) r) :
    ∃ q, Run limit p s q ∧ Run limit q u r := by
  induction s generalizing p with
  | nil => exact ⟨p, .done, h⟩
  | cons x s ih =>
      cases h with
      | next hs hrest =>
          obtain ⟨q, hq, hu⟩ := ih hrest
          exact ⟨q, .next hs hq, hu⟩

/-- The tokens of a `Run` determine its phrase and its end. -/
theorem eq_of_tokens {p q r : Progress} {s u : Phrase} (h : Run limit p s q)
    (h' : Run limit p u r) (htokens : tokens s = tokens u) : s = u ∧ q = r := by
  -- A token leads to one place, so the two runs stay together.
  induction h generalizing u with
  | done =>
      cases h' with
      | done => exact ⟨rfl, rfl⟩
      | next => simp at htokens
  | next hs _ ih =>
      cases h' with
      | done => simp at htokens
      | next hs' hrest' =>
          rw [tokens_cons, tokens_cons, List.cons.injEq] at htokens
          obtain ⟨rfl, htokens⟩ := htokens
          obtain rfl := Outcome.shift.inj (hs.symm.trans hs')
          obtain ⟨rfl, rfl⟩ := ih hrest' htokens
          exact ⟨rfl, rfl⟩

/-- Where a `Run` has fewer tokens than another one from the same place, it stops on the way of
the other: `Progress.step` goes on with the token that follows there. -/
theorem shift_of_prefix {p q r : Progress} {s u : Phrase} {t : Token} (h : Run limit p s q)
    (h' : Run limit p u r) (hfront : tokens s ++ [t] <+: tokens u) :
    ∃ next, q.step limit t = .shift next := by
  induction h generalizing u with
  | done =>
      cases h' with
      | done => simp at hfront
      | @next _ next _ x _ hs _ =>
          obtain rfl : t = x := (List.cons_prefix_cons.1 hfront).1
          exact ⟨next, hs⟩
  | next hs _ ih =>
      cases h' with
      | done => simp at hfront
      | next hs' hrest' =>
          rw [tokens_cons, tokens_cons, List.cons_append, List.cons_prefix_cons] at hfront
          obtain ⟨rfl, hfront⟩ := hfront
          obtain rfl := Outcome.shift.inj (hs.symm.trans hs')
          exact ih hrest' hfront

/-- No `Run` passes the end of the text. -/
theorem isEnd_eq_false {p q : Progress} {s : Phrase} (h : Run limit p s q) :
    ∀ t ∈ tokens s, t.isEnd = false := by
  induction h with
  | done => simp
  | next hs _ ih => simpa using ⟨isEnd_eq_false_of_step hs, ih⟩

end Run

/-! ### The limit -/

/-- With a greater limit `Progress.step` is the same, unless it was refused for the limit. -/
theorem step_eq_or_tooDeep {limit' : Nat} (hle : limit ≤ limit') (p : Progress) (t : Token) :
    p.step limit t = .reject .tooDeep ∨ p.step limit' t = p.step limit t := by
  obtain ⟨before, stage⟩ := p
  -- The limit is looked at where a factor or a block may begin.
  have factor : ∀ depth e site, Stage.beginFactor limit depth e site t = .error .tooDeep ∨
      Stage.beginFactor limit' depth e site t = Stage.beginFactor limit depth e site t := by
    intro depth e site
    unfold Stage.beginFactor
    split <;> try exact .inr rfl
    by_cases h : limit ≤ depth
    · exact .inl (if_pos h)
    · exact .inr (by rw [if_neg h, if_neg fun h' => h (Nat.le_trans hle h')])
  cases stage with
  | factor e site =>
      rcases factor (Stage.factor e site).depth e site with h | h
      · exact .inl (by simp only [step, advance, h, move])
      · exact .inr (by simp only [step, advance, h])
  | returned here site =>
      rcases factor (Stage.returned here site).depth (.begin (.returned here)) site with h | h
      · simp only [step, advance]
        split
        · exact .inr rfl
        · exact .inl (by simp only [h, move])
      · exact .inr (by simp only [step, advance, h])
  | blockOpen owner site =>
      by_cases h : limit ≤ (Stage.blockOpen owner site).depth
      · exact .inl (by simp only [step, advance, if_pos h])
      · exact .inr (by
          simp only [step, advance, if_neg h, if_neg fun h' => h (Nat.le_trans hle h')])
  | _ => exact .inr rfl

theorem step_shift_mono {limit' : Nat} {p q : Progress} {t : Token} (hle : limit ≤ limit')
    (h : p.step limit t = .shift q) : p.step limit' t = .shift q := by
  rcases step_eq_or_tooDeep hle p t with h' | h'
  · simp [h] at h'
  · exact h'.trans h

/-- A `Run` goes the same way with a greater limit. -/
theorem Run.mono {limit' : Nat} {p q : Progress} {s : Phrase} (h : Run limit p s q)
    (hle : limit ≤ limit') : Run limit' p s q := by
  induction h with
  | done => exact .done
  | next hs _ ih => exact .next (step_shift_mono hle hs) ih

end Progress

/-! ### The levels behind a token -/

namespace Nesting

variable {s : Symbol} {t : Token}

theorem opensAt_eq_keeps (h : t.lexeme ≠ .symbol s) : opensAt s t = keeps := if_neg h

theorem closesAt_eq_keeps (h : t.lexeme ≠ .symbol s) : closesAt s t = keeps := if_neg h

end Nesting

namespace Stage

variable {limit : Nat} {site : Site} {t : Token} {next : Stage}

/-- Between the stages of one step the levels are counted as `Stage.nesting` says, and a level
opens below the limit only. -/
structure Nests (limit : Nat) (stage : Stage) (t : Token) (next : Stage) : Prop where
  depth_eq : next.depth = (stage.nesting t).count stage.depth
  lt_limit : stage.nesting t = .opens → stage.depth < limit

/-- Where `Stage.nesting` keeps the levels, the stages are equally deep. -/
theorem Nests.of_keeps {stage : Stage} (h : stage.nesting t = .keeps)
    (hdepth : next.depth = stage.depth) : Nests limit stage t next :=
  ⟨by rw [h, hdepth]; rfl, fun hopens => by cases h.symm.trans hopens⟩

theorem depth_of_beginStatement (h : beginStatement site t = .ok next) :
    next.depth = site.depth := by
  unfold beginStatement at h
  split at h <;> cases h <;> rfl

theorem ne_symbol_of_beginStatement {s : Symbol} (h : beginStatement site t = .ok next) :
    t.lexeme ≠ .symbol s := by
  intro hlexeme
  simp only [beginStatement, hlexeme] at h
  cases h

/-- `beginFactor` opens a level with a parenthesis, and only below the limit. -/
theorem depth_of_beginFactor {depth : Nat} {e : OpenExpr}
    (h : beginFactor limit depth e site t = .ok next) :
    next.depth = (Nesting.opensAt .openParen t).count (site.depth + e.outer.length) ∧
      (Nesting.opensAt .openParen t = .opens → depth < limit) := by
  unfold beginFactor at h
  split at h
  · rename_i hlexeme
    cases h
    rw [Nesting.opensAt_eq_keeps (by simp [hlexeme])]
    exact ⟨rfl, nofun⟩
  · rename_i hlexeme
    cases h
    rw [Nesting.opensAt_eq_keeps (by simp [hlexeme])]
    exact ⟨rfl, nofun⟩
  · rename_i hlexeme
    split at h
    · cases h
    · rename_i hlt
      cases h
      rw [show Nesting.opensAt .openParen t = .opens from if_pos hlexeme]
      exact ⟨rfl, fun _ => Nat.lt_of_not_le hlt⟩
  · cases h

theorem depth_of_endExpression {purpose : Purpose} {e : Expr}
    (h : endExpression purpose e site t = .ok next) : next.depth = site.depth := by
  cases purpose <;> simp only [endExpression] at h <;> split at h <;> cases h <;>
    simp [depth]

theorem nests_of_afterFactor {e : OpenExpr} {read : Expr}
    (h : afterFactor e read site t = .ok next) : Nests limit (.operator e read site) t next := by
  obtain ⟨purpose, operands, outer⟩ := e
  -- An operator goes on with the level.
  have hoperator : ∀ {s : Symbol}, t.lexeme = .symbol s → s ≠ .closeParen →
      (Stage.operator ⟨purpose, operands, outer⟩ read site).nesting t = .keeps := by
    intro s hlexeme hs
    cases outer with
    | nil => rfl
    | cons => exact Nesting.closesAt_eq_keeps (by simpa [hlexeme] using hs)
  simp only [afterFactor] at h
  split at h
  · cases h
    exact .of_keeps (hoperator ‹_› (by decide)) rfl
  · cases h
    exact .of_keeps (hoperator ‹_› (by decide)) rfl
  · cases h
    exact .of_keeps (hoperator ‹_› (by decide)) rfl
  · cases h
    exact .of_keeps (hoperator ‹_› (by decide)) rfl
  · cases outer with
    | nil => exact .of_keeps rfl (depth_of_endExpression h)
    | cons around outer =>
        simp only at h
        split at h <;> cases h
        have hcloses : (Stage.operator ⟨purpose, operands, around :: outer⟩ read site).nesting t =
            .closes := if_pos ‹_›
        refine ⟨?_, fun hopens => by cases hcloses.symm.trans hopens⟩
        rw [hcloses]
        rfl

@[simp] theorem depth_closeBlock (owner : BlockOwner) (body : List Statement) (site : Site) :
    (closeBlock owner body site).depth = site.depth := by
  cases owner <;> simp [closeBlock, depth]

end Stage

namespace Progress

variable {limit : Nat} {before : List Function} {t : Token} {q : Progress}

/-- What is lifted by `Progress.move` goes on with the stage. -/
theorem exists_of_move {move' : Stage.Move} (h : move before move' = .shift q) :
    move' = .ok q.stage := by
  cases move' with
  | error => cases h
  | ok next =>
      cases h
      rfl

/-- At `Stage.nextStatement`, a token that is no closing brace keeps the levels. -/
theorem keeps_of_ne_closeBrace (site : Site) (h : t.lexeme ≠ .symbol .closeBrace) :
    (Stage.nextStatement site).nesting t = .keeps := by
  cases site with
  | body => rfl
  | block => exact Nesting.closesAt_eq_keeps h

/-- Behind a statement (`afterStatement`), a block closes with its brace. -/
theorem nests_of_afterStatement {site : Site} {stage : Stage} (hdepth : stage.depth = site.depth)
    (hnesting : stage.nesting t = (Stage.nextStatement site).nesting t)
    (h : afterStatement before site t = .shift q) : Stage.Nests limit stage t q.stage := by
  unfold afterStatement at h
  split at h
  · cases h
    exact .of_keeps (hnesting.trans rfl) hdepth.symm
  · rename_i hbrace
    cases h
    have hcloses : stage.nesting t = .closes := hnesting.trans (if_pos hbrace)
    refine ⟨?_, fun hopens => by cases hcloses.symm.trans hopens⟩
    rw [hcloses, hdepth]
    exact Stage.depth_closeBlock ..
  · have hmove := exists_of_move h
    refine .of_keeps (hnesting.trans ?_) ((Stage.depth_of_beginStatement hmove).trans hdepth.symm)
    exact keeps_of_ne_closeBrace _ (Stage.ne_symbol_of_beginStatement hmove)

/-- **Counting levels is looking at the stage.** Behind a token that fits, as many levels are
open as `Stage.nesting` makes of those in front of it, and one opens below the limit only. -/
theorem nests_of_step {p : Progress} (h : p.step limit t = .shift q) :
    p.stage.Nests limit t q.stage := by
  obtain ⟨before, stage⟩ := p
  cases stage with
  | definition =>
      simp only [step, advance] at h
      split at h
      · cases h
        exact .of_keeps rfl rfl
      · split at h <;> cases h
  | firstParam =>
      simp only [step, advance] at h
      split at h
      · cases h
        exact .of_keeps rfl rfl
      · split at h <;> cases h
        exact .of_keeps rfl rfl
  | firstStatement =>
      exact .of_keeps rfl (Stage.depth_of_beginStatement (exists_of_move h))
  | nextStatement => exact nests_of_afterStatement rfl rfl h
  | paramsNext =>
      simp only [step, advance] at h
      split at h <;> cases h <;> exact .of_keeps rfl rfl
  | initializer =>
      simp only [step, advance] at h
      split at h <;> cases h
      · exact .of_keeps rfl rfl
      · exact .of_keeps rfl (Site.depth_behind ..)
  | returned =>
      simp only [step, advance] at h
      split at h
      · rename_i hsemicolon
        cases h
        exact .of_keeps (Nesting.opensAt_eq_keeps (by simp [hsemicolon])) (Site.depth_behind ..)
      · obtain ⟨hdepth, hlt⟩ := Stage.depth_of_beginFactor (exists_of_move h)
        exact ⟨hdepth, hlt⟩
  | factor =>
      obtain ⟨hdepth, hlt⟩ := Stage.depth_of_beginFactor (exists_of_move h)
      exact ⟨hdepth, hlt⟩
  | operator => exact Stage.nests_of_afterFactor (exists_of_move h)
  | blockOpen owner site =>
      simp only [step, advance] at h
      split at h
      · cases h
      · rename_i hlt
        split at h <;> cases h
        rename_i hbrace
        have hopens : (Stage.blockOpen owner site).nesting t = .opens := if_pos hbrace
        exact ⟨by rw [hopens]; rfl, fun _ => Nat.lt_of_not_le hlt⟩
  | thenClosed condition thenBranch here site =>
      simp only [step, advance] at h
      split at h
      · rename_i helse
        cases h
        refine .of_keeps ?_ rfl
        rw [← keeps_of_ne_closeBrace (t := t) site (by simp [helse])]
        cases site <;> rfl
      · refine nests_of_afterStatement (Site.depth_behind ..).symm ?_ h
        cases site <;> rfl
  | _ =>
      simp only [step, advance] at h
      split at h <;> cases h
      exact .of_keeps rfl rfl

/-- `Progress.step` keeps within the limit. -/
theorem depth_of_step {p : Progress} (h : p.step limit t = .shift q)
    (hp : p.stage.depth ≤ limit) : q.stage.depth ≤ limit := by
  obtain ⟨hdepth, hlt⟩ := nests_of_step h
  rw [hdepth]
  cases hnesting : p.stage.nesting t with
  | opens => exact hlt hnesting
  | closes => exact Nat.le_trans (Nat.sub_le ..) hp
  | keeps => exact hp

/-- A `Run` that starts within the limit stays within it, and so does its phrase
(`NestsWithin`). -/
theorem Run.nestsWithin {p : Progress} {s : Phrase} (h : Run limit p s q)
    (hp : p.stage.depth ≤ limit) : NestsWithin limit s ∧ q.stage.depth ≤ limit := by
  induction h with
  | done => exact ⟨nestsWithin_nil limit, hp⟩
  | next hs _ ih =>
      obtain ⟨hnest, hle⟩ := ih (depth_of_step hs hp)
      exact ⟨(nestsWithin_cons ..).2 ⟨hp, hnest⟩, hle⟩

end Progress

end SyntaxExplorer
