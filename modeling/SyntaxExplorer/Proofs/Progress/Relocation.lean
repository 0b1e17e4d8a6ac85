import SyntaxExplorer.Proofs.Progress.Run
import SyntaxExplorer.Proofs.Program.Relocation

/-!
# SyntaxExplorer.Proofs.Progress.Relocation

**Reading does not look at locations**, and not at the functions that are finished
either. Where a run is at a stage, the run over the same tokens at other locations is at
the same stage at other locations (`Run.relocate`), also if it has other functions
behind it. There is one exception: the end of the text completes a program only
behind a function, so it is refused at the start and accepted behind `earlier`
functions (`step_relocate`).
-/

namespace SyntaxExplorer

open Grammar

variable (f : Location → Location)

/-! ### Tokens and stages at other locations -/

def Token.relocate (t : Token) : Token := ⟨t.lexeme, f t.location⟩

@[simp] theorem Token.isEnd_relocate (t : Token) : (t.relocate f).isEnd = t.isEnd := rfl

def Signature.relocate (s : Signature) : Signature := { s with location := f s.location }

def Header.relocate (h : Header) : Header :=
  ⟨h.signature.relocate f, h.params.map (Param.relocate f)⟩

def BlockOwner.relocate : BlockOwner → BlockOwner
  | .ifThen condition here => .ifThen (condition.relocate f) (f here)
  | .ifElse condition thenBranch elseHere here =>
    .ifElse (condition.relocate f) (thenBranch.map (Statement.relocate f)) (f elseHere) (f here)
  | .whileLoop condition here => .whileLoop (condition.relocate f) (f here)

def Site.relocate : Site → Site
  | .body header before => .body (header.relocate f) (before.map (Statement.relocate f))
  | .block owner before outer =>
    .block (owner.relocate f) (before.map (Statement.relocate f)) outer.relocate

def Pending.relocate (p : Pending) : Pending := ⟨p.left.relocate f, p.op, f p.location⟩

def Operands.relocate (o : Operands) : Operands :=
  ⟨o.sum.map (Pending.relocate f), o.product.map (Pending.relocate f)⟩

def Purpose.relocate : Purpose → Purpose
  | .initializer name type here => .initializer name type (f here)
  | .assigned target here => .assigned target (f here)
  | .ifCondition here => .ifCondition (f here)
  | .whileCondition here => .whileCondition (f here)
  | .returned here => .returned (f here)

def OpenExpr.relocate (e : OpenExpr) : OpenExpr :=
  ⟨e.purpose.relocate f, e.operands.relocate f, e.outer.map (Operands.relocate f)⟩

def Stage.relocate : Stage → Stage
  | .definition => .definition
  | .functionName type here => .functionName type (f here)
  | .paramsOpen signature => .paramsOpen (signature.relocate f)
  | .firstParam signature => .firstParam (signature.relocate f)
  | .param signature before => .param (signature.relocate f) (before.map (Param.relocate f))
  | .paramName signature before type here =>
    .paramName (signature.relocate f) (before.map (Param.relocate f)) type (f here)
  | .paramsNext signature before =>
    .paramsNext (signature.relocate f) (before.map (Param.relocate f))
  | .bodyOpen header => .bodyOpen (header.relocate f)
  | .firstStatement site => .firstStatement (site.relocate f)
  | .nextStatement site => .nextStatement (site.relocate f)
  | .declaredName type here site => .declaredName type (f here) (site.relocate f)
  | .initializer name type here site => .initializer name type (f here) (site.relocate f)
  | .assignSign target here site => .assignSign target (f here) (site.relocate f)
  | .ifOpen here site => .ifOpen (f here) (site.relocate f)
  | .whileOpen here site => .whileOpen (f here) (site.relocate f)
  | .returned here site => .returned (f here) (site.relocate f)
  | .factor e site => .factor (e.relocate f) (site.relocate f)
  | .operator e read site => .operator (e.relocate f) (read.relocate f) (site.relocate f)
  | .blockOpen owner site => .blockOpen (owner.relocate f) (site.relocate f)
  | .thenClosed condition thenBranch here site =>
    .thenClosed (condition.relocate f) (thenBranch.map (Statement.relocate f)) (f here)
      (site.relocate f)

/-- The progress at other locations, behind `earlier` functions (the last one first). -/
def Progress.relocate (earlier : List Function) (p : Progress) : Progress :=
  ⟨p.before.map (Function.relocate f) ++ earlier, p.stage.relocate f⟩

def Outcome.relocate (earlier : List Function) : Outcome → Outcome
  | .shift next => .shift (next.relocate f earlier)
  | .accept program => .accept ⟨earlier.reverse ++ (program.relocate f).functions⟩
  | .reject fault => .reject fault

/-! ### What is built of what was read -/

@[simp] theorem Site.depth_relocate (site : Site) : (site.relocate f).depth = site.depth := by
  induction site with
  | body => rfl
  | block owner before outer ih => rw [relocate, depth, ih, depth]

@[simp] theorem Site.relocate_behind (s : Statement) (site : Site) :
    (site.behind s).relocate f = (site.relocate f).behind (s.relocate f) := by
  cases site <;> rfl

namespace Operands

@[simp] theorem relocate_none : relocate f none = none := rfl

@[simp] theorem relocate_term (o : Operands) (factor : Expr) :
    (o.term factor).relocate f = (o.relocate f).term (factor.relocate f) := by
  obtain ⟨sum, product⟩ := o
  cases product <;> rfl

@[simp] theorem relocate_expression (o : Operands) (factor : Expr) :
    (o.expression factor).relocate f = (o.relocate f).expression (factor.relocate f) := by
  have hterm := relocate_term f o factor
  obtain ⟨sum, product⟩ := o
  cases sum with
  | none => exact hterm
  | some p => exact congrArg (Pending.relocate f p).apply hterm

@[simp] theorem relocate_thenProduct (o : Operands) (factor : Expr) (op : Operator)
    (here : Location) :
    (o.thenProduct factor op here).relocate f =
      (o.relocate f).thenProduct (factor.relocate f) op (f here) := by
  simp only [thenProduct, relocate, Option.map_some, Pending.relocate, relocate_term]

@[simp] theorem relocate_thenSum (o : Operands) (factor : Expr) (op : Operator)
    (here : Location) :
    (o.thenSum factor op here).relocate f =
      (o.relocate f).thenSum (factor.relocate f) op (f here) := by
  simp only [thenSum, relocate, Option.map_some, Option.map_none, Pending.relocate,
    relocate_expression]

end Operands

@[simp] theorem OpenExpr.relocate_begin (purpose : Purpose) :
    (begin purpose).relocate f = begin (purpose.relocate f) :=
  rfl

@[simp] theorem BlockOwner.kind_relocate (owner : BlockOwner) :
    (owner.relocate f).kind = owner.kind := by
  cases owner <;> rfl

@[simp] theorem Header.relocate_function (header : Header) (body : List Statement) :
    (header.function body).relocate f =
      (header.relocate f).function (body.map (Statement.relocate f)) :=
  rfl

@[simp] theorem Stage.depth_relocate (stage : Stage) :
    (stage.relocate f).depth = stage.depth := by
  cases stage <;> simp [relocate, depth, OpenExpr.relocate]

namespace Stage

variable {limit : Nat} (t : Token) (site : Site)

theorem relocate_closeBlock (owner : BlockOwner) (body : List Statement) :
    (closeBlock owner body site).relocate f =
      closeBlock (owner.relocate f) (body.map (Statement.relocate f)) (site.relocate f) := by
  cases owner <;> simp [closeBlock, relocate, BlockOwner.relocate, Statement.relocate,
    Statement.relocateAll_eq_map]

theorem beginStatement_relocate :
    beginStatement (site.relocate f) (t.relocate f) =
      (beginStatement site t).map (relocate f) := by
  fun_cases beginStatement site t <;>
    simp_all [beginStatement, Token.relocate, Except.map, relocate]

theorem beginFactor_relocate (depth : Nat) (e : OpenExpr) :
    beginFactor limit depth (e.relocate f) (site.relocate f) (t.relocate f) =
      (beginFactor limit depth e site t).map (relocate f) := by
  fun_cases beginFactor limit depth e site t <;>
    simp_all [beginFactor, Token.relocate, Except.map, relocate, OpenExpr.relocate, Expr.ofValue,
      Expr.relocate]

theorem endExpression_relocate (purpose : Purpose) (value : Expr) :
    endExpression (purpose.relocate f) (value.relocate f) (site.relocate f) (t.relocate f) =
      (endExpression purpose value site t).map (relocate f) := by
  fun_cases endExpression purpose value site t <;>
    simp_all [endExpression, Purpose.relocate, Token.relocate, Except.map, relocate,
      BlockOwner.relocate, Statement.relocate]

theorem afterFactor_relocate (e : OpenExpr) (read : Expr) :
    afterFactor (e.relocate f) (read.relocate f) (site.relocate f) (t.relocate f) =
      (afterFactor e read site t).map (relocate f) := by
  obtain ⟨purpose, operands, outer⟩ := e
  obtain ⟨lexeme, here⟩ := t
  have hend := endExpression_relocate f ⟨lexeme, here⟩ site purpose (operands.expression read)
  rw [Operands.relocate_expression] at hend
  cases outer with
  | nil =>
      simp only [afterFactor, OpenExpr.relocate, Token.relocate, List.map_nil] at hend ⊢
      split
      case h_5 => exact hend
      all_goals simp [Except.map, relocate, OpenExpr.relocate]
  | cons around outer =>
      simp only [afterFactor, OpenExpr.relocate, Token.relocate, List.map_cons]
      split
      case h_5 => split <;> simp [Except.map, relocate, OpenExpr.relocate]
      all_goals simp [Except.map, relocate, OpenExpr.relocate]

end Stage

namespace Progress

variable {limit : Nat} (earlier : List Function)

theorem move_relocate (before : List Function) (m : Stage.Move) :
    move (before.map (Function.relocate f) ++ earlier) (m.map (Stage.relocate f)) =
      (move before m).relocate f earlier := by
  cases m <;> rfl

theorem afterStatement_of_ne {before : List Function} {site : Site} {t : Token}
    (h : t.lexeme ≠ .symbol .closeBrace) :
    afterStatement before site t = move before (Stage.beginStatement site t) := by
  unfold afterStatement
  split <;> first | rfl | contradiction

theorem afterStatement_relocate (before : List Function) (site : Site) (t : Token) :
    afterStatement (before.map (Function.relocate f) ++ earlier) (site.relocate f)
        (t.relocate f) =
      (afterStatement before site t).relocate f earlier := by
  by_cases h : t.lexeme = .symbol .closeBrace
  · have h' : (t.relocate f).lexeme = .symbol .closeBrace := h
    cases site with
    | body header statements =>
        simp [afterStatement, h, h', Site.relocate, Outcome.relocate, relocate, Stage.relocate]
    | block owner statements outer =>
        simp [afterStatement, h, h', Site.relocate, Outcome.relocate, relocate,
          Stage.relocate_closeBlock]
  · have h' : (t.relocate f).lexeme ≠ .symbol .closeBrace := h
    rw [afterStatement_of_ne h, afterStatement_of_ne h', Stage.beginStatement_relocate,
      move_relocate]

/-- `Progress.advance` does not look at locations, nor at the functions in front, but for
the end of the text at the start. -/
theorem advance_relocate (depth : Nat) {p : Progress} {t : Token}
    (h : p ≠ .start ∨ t.isEnd = false) :
    (p.relocate f earlier).advance limit depth (t.relocate f) =
      (p.advance limit depth t).relocate f earlier := by
  obtain ⟨before, stage⟩ := p
  obtain ⟨lexeme, there⟩ := t
  cases stage with
  | definition =>
      simp only [advance, relocate, Stage.relocate, Token.relocate]
      split
      · rfl
      · cases before with
        | nil =>
            -- The end of the text is excluded, and nothing else looks at the functions.
            cases lexeme with
            | endOfFile => exact absurd h (by simp [start, Token.isEnd])
            | _ => rfl
        | cons g before =>
            split
            · simp [Outcome.relocate, Program.relocate]
            · split <;> simp_all [Outcome.relocate]
  | firstParam signature =>
      simp only [advance, relocate, Stage.relocate, Token.relocate]
      split
      · rfl
      · split <;> rfl
  | firstStatement site =>
      simp only [advance, relocate, Stage.relocate, Stage.beginStatement_relocate, move_relocate]
  | nextStatement site => exact afterStatement_relocate ..
  | returned here site =>
      have hfactor : Stage.beginFactor limit depth (.begin (.returned (f here)))
          (site.relocate f) ⟨lexeme, f there⟩ =
          (Stage.beginFactor limit depth (.begin (.returned here)) site ⟨lexeme, there⟩).map
            (Stage.relocate f) :=
        Stage.beginFactor_relocate f ⟨lexeme, there⟩ site depth (.begin (.returned here))
      simp only [advance, relocate, Stage.relocate, Token.relocate]
      split
      · simp [Outcome.relocate, relocate, Stage.relocate, Statement.relocate]
      · rw [hfactor, move_relocate]
  | factor e site =>
      simp only [advance, relocate, Stage.relocate, Stage.beginFactor_relocate, move_relocate]
  | operator e read site =>
      simp only [advance, relocate, Stage.relocate, Stage.afterFactor_relocate, move_relocate]
  | blockOpen owner site =>
      simp only [advance, relocate, Stage.relocate, Token.relocate, BlockOwner.kind_relocate]
      split
      · rfl
      · split <;> rfl
  | thenClosed condition thenBranch here site =>
      have hafter := afterStatement_relocate f earlier before
        (site.behind (.ifThen condition thenBranch here)) ⟨lexeme, there⟩
      simp only [advance, relocate, Stage.relocate, Token.relocate] at hafter ⊢
      split
      · rfl
      · rw [← hafter]
        simp [Statement.relocate, Statement.relocateAll_eq_map]
  | _ =>
      -- One lexeme leads on, or a few do, and what was read stays as it is.
      simp only [advance, relocate, Stage.relocate, Token.relocate]
      split <;> simp [Outcome.relocate, relocate, Stage.relocate, Header.relocate,
        Param.relocate, Signature.relocate, Site.relocate, Purpose.relocate, Statement.relocate]

/-- **`Progress.step` does not look at locations**, nor at the functions in front, but for the
end of the text at the start. -/
theorem step_relocate {p : Progress} {t : Token} (h : p ≠ .start ∨ t.isEnd = false) :
    (p.relocate f earlier).step limit (t.relocate f) =
      (p.step limit t).relocate f earlier := by
  have hdepth : (p.relocate f earlier).stage.depth = p.stage.depth :=
    Stage.depth_relocate f p.stage
  rw [step, hdepth, advance_relocate f earlier _ h, step]

end Progress

/-! ### Runs -/

/-- The token of a phrase at another location. -/
def Grammar.Placed.relocate (x : Placed) : Placed := ⟨x.token.relocate f, x.depth⟩

theorem Grammar.tokens_relocate (s : Phrase) :
    tokens (s.map (Placed.relocate f)) = (tokens s).map (Token.relocate f) := by
  simp [tokens, Placed.relocate, Function.comp_def]

namespace Progress

variable {limit : Nat} {p q : Progress}

/-- **A `Run` goes the same way at other locations**, behind any functions. -/
theorem Run.relocate (earlier : List Function) {s : Phrase} (h : Run limit p s q) :
    Run limit (p.relocate f earlier) (s.map (Placed.relocate f)) (q.relocate f earlier) := by
  induction h with
  | done => exact .done
  | @next p q r t s hs _ ih =>
      have hstep : (p.relocate f earlier).step limit (t.relocate f) =
          (p.step limit t).relocate f earlier :=
        step_relocate f earlier (.inr (isEnd_eq_false_of_step hs))
      rw [hs] at hstep
      have hdepth : (p.relocate f earlier).stage.depth = p.stage.depth :=
        Stage.depth_relocate f p.stage
      rw [List.map_cons, Placed.relocate, ← hdepth]
      exact .next hstep ih

end Progress

end SyntaxExplorer
