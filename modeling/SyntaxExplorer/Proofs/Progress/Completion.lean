import SyntaxExplorer.Proofs.Progress.Completeness

/-!
# SyntaxExplorer.Proofs.Progress.Completion

**Whatever has been read can be completed.** From every stage some tokens lead
to the end of a function (`completes`), so what a run has read is the beginning
of a sentence. The tokens are the shortest that come to mind: a missing
expression is an identifier, a missing statement a `return`, and what is open is
closed, from the inside out.

Only a block that is still to be opened needs a level more than there are.
-/

namespace SyntaxExplorer

open Grammar

namespace Stage

/-- The stage of `closeBlock` is one behind the statement of the owner (`Progress.Behind`). -/
theorem behind_closeBlock (owner : BlockOwner) (body : List Statement) (site : Site) :
    ∃ st, Progress.Behind (site.behind st) (closeBlock owner body site) := by
  cases owner with
  | ifThen => exact ⟨_, .thenBranch⟩
  | ifElse => exact ⟨_, .statement⟩
  | whileLoop => exact ⟨_, .statement⟩

end Stage

namespace Progress

/-- Some phrase leads from here to the end of a function, where `Stage.definition` is. -/
def Completes (limit : Nat) (p : Progress) : Prop :=
  ∃ s f before, Run limit p s ⟨f :: before, .definition⟩

variable {limit : Nat} {before : List Function}

theorem Completes.of_step {p q : Progress} {t : Token} (hq : Completes limit q)
    (h : p.step limit t = .shift q) : Completes limit p := by
  obtain ⟨s, f, before, hrun⟩ := hq
  exact ⟨_, f, before, .next h hrun⟩

abbrev anySymbol (s : Symbol) : Token := ⟨.symbol s, .start⟩

abbrev anyName : Token := ⟨.identifier "x", .start⟩

/-! ### Behind a statement -/

theorem completes_behind {site : Site} {stage : Stage} (h : Behind site stage) :
    Completes limit ⟨before, stage⟩ := by
  -- The brace closes the innermost block, and the site around it is less deep.
  induction hdepth : site.depth generalizing site stage with
  | zero =>
      cases site with
      | body header statements =>
          exact ⟨_, _, before, .single (step_closeBrace h .start)⟩
      | block => simp [Site.depth] at hdepth
  | succ depth ih =>
      cases site with
      | body => simp [Site.depth] at hdepth
      | block owner statements outer =>
          obtain ⟨st, hclosed⟩ := Stage.behind_closeBlock owner statements.reverse outer
          have houter : (outer.behind st).depth = depth := by
            simpa [Site.depth] using hdepth
          exact (ih hclosed houter).of_step (step_closeBrace h .start)

theorem completes_nextStatement (site : Site) : Completes limit ⟨before, .nextStatement site⟩ :=
  completes_behind .statement

theorem completes_firstStatement (site : Site) :
    Completes limit ⟨before, .firstStatement site⟩ := by
  have hreturn : step limit ⟨before, .firstStatement site⟩ ⟨.keyword .returnWord, .start⟩ =
      .shift ⟨before, .returned .start site⟩ := rfl
  have hend : step limit ⟨before, .returned .start site⟩ (anySymbol .semicolon) =
      .shift ⟨before, .nextStatement (site.behind (.returnValue none .start))⟩ := rfl
  exact ((completes_nextStatement _).of_step hend).of_step hreturn

theorem completes_blockOpen (owner : BlockOwner) {site : Site} (h : site.depth < limit) :
    Completes limit ⟨before, .blockOpen owner site⟩ :=
  (completes_firstStatement _).of_step (step_openBrace owner .start h)

/-! ### Inside an expression -/

/-- What follows an expression, by its `Purpose`, goes on to the next statement or to a block. -/
theorem completes_endExpression (purpose : Purpose) (operands : Operands) (read : Expr)
    {site : Site} (h : site.depth < limit) :
    Completes limit ⟨before, .operator ⟨purpose, operands, []⟩ read site⟩ := by
  cases purpose with
  | initializer => exact (completes_nextStatement _).of_step (t := anySymbol .semicolon) rfl
  | assigned => exact (completes_nextStatement _).of_step (t := anySymbol .semicolon) rfl
  | returned => exact (completes_nextStatement _).of_step (t := anySymbol .semicolon) rfl
  | ifCondition =>
      exact (completes_blockOpen _ h).of_step (t := anySymbol .closeParen) rfl
  | whileCondition =>
      exact (completes_blockOpen _ h).of_step (t := anySymbol .closeParen) rfl

theorem completes_operator (purpose : Purpose) (operands : Operands) (outer : List Operands)
    (read : Expr) {site : Site} (h : site.depth < limit) :
    Completes limit ⟨before, .operator ⟨purpose, operands, outer⟩ read site⟩ := by
  induction outer generalizing operands read with
  | nil => exact completes_endExpression purpose operands read h
  | cons around outer ih =>
      exact (ih around (operands.expression read)).of_step (t := anySymbol .closeParen) rfl

theorem completes_factor (e : OpenExpr) {site : Site} (h : site.depth < limit) :
    Completes limit ⟨before, .factor e site⟩ :=
  (completes_operator e.purpose e.operands e.outer _ h).of_step (t := anyName) rfl

/-! ### In front of a body -/

theorem completes_bodyOpen (header : Header) : Completes limit ⟨before, .bodyOpen header⟩ :=
  (completes_firstStatement _).of_step (t := anySymbol .openBrace) rfl

theorem completes_paramsNext (signature : Signature) (params : List Param) :
    Completes limit ⟨before, .paramsNext signature params⟩ :=
  (completes_bodyOpen _).of_step (t := anySymbol .closeParen) rfl

theorem completes_paramName (signature : Signature) (params : List Param) (type : TypeName)
    (here : Location) : Completes limit ⟨before, .paramName signature params type here⟩ :=
  (completes_paramsNext signature _).of_step (t := anyName) rfl

theorem completes_paramsOpen (signature : Signature) :
    Completes limit ⟨before, .paramsOpen signature⟩ := by
  have hclose : step limit ⟨before, .firstParam signature⟩ (anySymbol .closeParen) =
      .shift ⟨before, .bodyOpen ⟨signature, []⟩⟩ := rfl
  exact ((completes_bodyOpen _).of_step hclose).of_step (t := anySymbol .openParen) rfl

theorem completes_functionName (type : TypeName) (here : Location) :
    Completes limit ⟨before, .functionName type here⟩ :=
  (completes_paramsOpen _).of_step (t := anyName) rfl

/-- Below the limit every place `Completes`. -/
theorem completes (p : Progress) (h : p.stage.depth < limit) : Completes limit p := by
  obtain ⟨before, stage⟩ := p
  cases stage with
  | definition =>
      exact (completes_functionName .int .start).of_step (t := ⟨.keyword .int, .start⟩) rfl
  | functionName type here => exact completes_functionName type here
  | paramsOpen signature => exact completes_paramsOpen signature
  | firstParam signature =>
      exact (completes_bodyOpen _).of_step (t := anySymbol .closeParen) rfl
  | param signature params =>
      exact (completes_paramName signature params .int .start).of_step
        (t := ⟨.keyword .int, .start⟩) rfl
  | paramName signature params type here => exact completes_paramName signature params type here
  | paramsNext signature params => exact completes_paramsNext signature params
  | bodyOpen header => exact completes_bodyOpen header
  | firstStatement site => exact completes_firstStatement site
  | nextStatement site => exact completes_nextStatement site
  | declaredName type here site =>
      have hend : step limit ⟨before, .initializer "x" type here site⟩ (anySymbol .semicolon) =
          .shift ⟨before, .nextStatement (site.behind (.declaration "x" type none here))⟩ := rfl
      exact ((completes_nextStatement _).of_step hend).of_step (t := anyName) rfl
  | initializer name type here site =>
      exact (completes_nextStatement _).of_step (t := anySymbol .semicolon) rfl
  | assignSign target here site =>
      exact (completes_factor _ h).of_step (t := anySymbol .assign) rfl
  | ifOpen here site => exact (completes_factor _ h).of_step (t := anySymbol .openParen) rfl
  | whileOpen here site => exact (completes_factor _ h).of_step (t := anySymbol .openParen) rfl
  | returned here site =>
      exact (completes_nextStatement _).of_step (t := anySymbol .semicolon) rfl
  | factor e site => exact completes_factor e (Nat.lt_of_le_of_lt (Nat.le_add_right ..) h)
  | operator e read site =>
      exact completes_operator e.purpose e.operands e.outer read
        (Nat.lt_of_le_of_lt (Nat.le_add_right ..) h)
  | blockOpen owner site => exact completes_blockOpen owner h
  | thenClosed condition thenBranch here site => exact completes_behind .thenBranch

end Progress

end SyntaxExplorer
