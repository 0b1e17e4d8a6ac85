import SyntaxExplorer.Proofs.Progress.Run

/-!
# SyntaxExplorer.Proofs.Progress.Completeness

**Every sentence is read.** The phrase of a derivation leads from the stage that
wants it to the stage behind it, with the tree of the derivation in the place
where the stage keeps it, as long as the phrase nests within the limit. For a
whole sentence that is `run_of_isProgram`.

The derivations recurse on the left, so the induction reads a list or a layer up
to its last item and then that item, just as the stages do: what an expression
has in front of its last factor is kept in its pending operands.
-/

namespace SyntaxExplorer

open Grammar

namespace Progress

variable {limit : Nat} {before : List Function}

/-! ### Expressions -/

theorem step_sum (purpose : Purpose) (operands : Operands) (outer : List Operands) (last : Expr)
    (site : Site) {op : Operator} (hop : op.isAdditive = true) (here : Location) :
    step limit ⟨before, .operator ⟨purpose, operands, outer⟩ last site⟩ ⟨.symbol op.sign, here⟩ =
      .shift ⟨before, .factor ⟨purpose, operands.thenSum last op here, outer⟩ site⟩ := by
  cases op <;> first | rfl | simp [Operator.isAdditive] at hop

theorem step_product (purpose : Purpose) (operands : Operands) (outer : List Operands)
    (last : Expr) (site : Site) {op : Operator} (hop : op.isAdditive = false) (here : Location) :
    step limit ⟨before, .operator ⟨purpose, operands, outer⟩ last site⟩ ⟨.symbol op.sign, here⟩ =
      .shift ⟨before, .factor ⟨purpose, operands.thenProduct last op here, outer⟩ site⟩ := by
  cases op <;> first | rfl | simp [Operator.isAdditive] at hop

theorem step_openParen (purpose : Purpose) (operands : Operands) (outer : List Operands)
    (site : Site) (here : Location) (h : site.depth + outer.length < limit) :
    step limit ⟨before, .factor ⟨purpose, operands, outer⟩ site⟩ ⟨.symbol .openParen, here⟩ =
      .shift ⟨before, .factor ⟨purpose, .none, operands :: outer⟩ site⟩ := by
  have hopen : ¬limit ≤ (Stage.factor ⟨purpose, operands, outer⟩ site).depth := Nat.not_le.2 h
  simp only [step, advance, Stage.beginFactor, if_neg hopen, move]

/-- Where the phrase `s` of a layer leads, if its tree is `e`. An expression
starts with nothing pending, a term behind a sum that may be pending, a factor
anywhere. -/
def Reading (limit : Nat) (before : List Function) (purpose : Purpose) (outer : List Operands)
    (site : Site) (s : Phrase) (e : Expr) : Layer → Prop
  | .expression => ∃ operands last,
      Run limit ⟨before, .factor ⟨purpose, .none, outer⟩ site⟩ s
        ⟨before, .operator ⟨purpose, operands, outer⟩ last site⟩ ∧
      operands.expression last = e
  | .term => ∀ sum, ∃ product last,
      Run limit ⟨before, .factor ⟨purpose, ⟨sum, none⟩, outer⟩ site⟩ s
        ⟨before, .operator ⟨purpose, ⟨sum, product⟩, outer⟩ last site⟩ ∧
      Operands.term ⟨sum, product⟩ last = e
  | .factor => ∀ operands,
      Run limit ⟨before, .factor ⟨purpose, operands, outer⟩ site⟩ s
        ⟨before, .operator ⟨purpose, operands, outer⟩ e site⟩

theorem reading_of_isExpr {layer : Layer} {depth : Nat} {s : Phrase} {e : Expr}
    (h : IsExpr layer depth s e) (purpose : Purpose) (outer : List Operands) (site : Site)
    (hdepth : depth = site.depth + outer.length) (hnest : NestsWithin limit s) :
    Reading limit before purpose outer site s e layer := by
  induction h generalizing outer with
  | ofTerm _ ih =>
      obtain ⟨product, last, hrun, rfl⟩ := ih outer hdepth hnest none
      exact ⟨⟨none, product⟩, last, hrun, rfl⟩
  | @sum depth s u op left right here hop _ _ ihl ihr =>
      subst hdepth
      rw [nestsWithin_append, nestsWithin_cons] at hnest
      -- The left operand is complete at the operator, where it becomes the pending sum.
      obtain ⟨operands, last, hleft, rfl⟩ := ihl outer rfl hnest.1
      obtain ⟨product, last', hright, rfl⟩ :=
        ihr outer rfl hnest.2.2 (some ⟨operands.expression last, op, here⟩)
      refine ⟨⟨some ⟨operands.expression last, op, here⟩, product⟩, last', ?_, rfl⟩
      exact hleft.append (.next (step_sum purpose operands outer last site hop here) hright)
  | ofFactor _ ih =>
      intro sum
      exact ⟨none, _, ih outer hdepth hnest ⟨sum, none⟩, rfl⟩
  | @product depth s u op left right here hop _ _ ihl ihr =>
      subst hdepth
      intro sum
      rw [nestsWithin_append, nestsWithin_cons] at hnest
      obtain ⟨product, last, hleft, rfl⟩ := ihl outer rfl hnest.1 sum
      refine ⟨some ⟨Operands.term ⟨sum, product⟩ last, op, here⟩, right, ?_, rfl⟩
      refine hleft.append (.next (step_product purpose ⟨sum, product⟩ outer last site hop here) ?_)
      exact ihr outer rfl hnest.2.2 _
  | number =>
      subst hdepth
      intro operands
      exact .single rfl
  | id =>
      subst hdepth
      intro operands
      exact .single rfl
  | @parens depth s e opening closing _ ih =>
      subst hdepth
      intro operands
      rw [List.cons_append, nestsWithin_cons, nestsWithin_append, nestsWithin_cons] at hnest
      have hdepth : site.depth + outer.length + 1 = site.depth + (operands :: outer).length := by
        rw [List.length_cons]
        omega
      -- What is pending around the parentheses waits in the list of levels.
      obtain ⟨inner, last, hrun, rfl⟩ := ih (operands :: outer) hdepth hnest.2.1
      refine .next (step_openParen purpose operands outer site opening hnest.2.2.1)
        (hrun.append ?_)
      rw [hdepth]
      exact .single rfl

/-- The expression of a statement (`IsExpr`) leads to the stage behind its last factor. -/
theorem run_of_isExpr {s : Phrase} {e : Expr} {site : Site} (purpose : Purpose)
    (h : IsExpr .expression site.depth s e) (hnest : NestsWithin limit s) :
    ∃ operands last, Run limit ⟨before, .factor (.begin purpose) site⟩ s
        ⟨before, .operator ⟨purpose, operands, []⟩ last site⟩ ∧ operands.expression last = e :=
  reading_of_isExpr h purpose [] site rfl hnest

/-! ### Where statements stand -/

/-- The stages behind the last statement at a site: the next statement is wanted,
or the `else` of an `if`. -/
inductive Behind : Site → Stage → Prop
  | statement {site} : Behind site (.nextStatement site)
  | thenBranch {condition body here site} :
      Behind (site.behind (.ifThen condition body here)) (.thenClosed condition body here site)

/-- The stages at which a statement can begin at a `Site`. -/
inductive Begins : Site → Stage → Prop
  | first {site} : Begins site (.firstStatement site)
  | behind {site stage} : Behind site stage → Begins site stage

theorem Behind.depth_eq {site : Site} {stage : Stage} (h : Behind site stage) :
    stage.depth = site.depth := by
  cases h with
  | statement => rfl
  | thenBranch => rw [Site.depth_behind]; rfl

theorem Begins.depth_eq {site : Site} {stage : Stage} (h : Begins site stage) :
    stage.depth = site.depth := by
  cases h with
  | first => rfl
  | behind h => exact h.depth_eq

/-- `Stage.blockOpen` opens a block below the limit. -/
theorem step_openBrace (owner : BlockOwner) {site : Site} (here : Location)
    (h : site.depth < limit) :
    step limit ⟨before, .blockOpen owner site⟩ ⟨.symbol .openBrace, here⟩ =
      .shift ⟨before, .firstStatement (.block owner [] site)⟩ := by
  have hopen : ¬limit ≤ (Stage.blockOpen owner site).depth := Nat.not_le.2 h
  simp only [step, advance, if_neg hopen]

/-- A brace closes the list of statements in front of it, also where an `else`
could stand. -/
theorem step_closeBrace {site : Site} {stage : Stage} (h : Behind site stage) (here : Location) :
    step limit ⟨before, stage⟩ ⟨.symbol .closeBrace, here⟩ =
      afterStatement before site ⟨.symbol .closeBrace, here⟩ := by
  cases h <;> rfl

theorem afterStatement_of_beginStatement {site : Site} {t : Token} {next : Stage}
    (h : Stage.beginStatement site t = .ok next) :
    afterStatement before site t = .shift ⟨before, next⟩ := by
  obtain ⟨lexeme, here⟩ := t
  unfold afterStatement
  split
  · rename_i hlexeme
    obtain rfl : lexeme = .symbol .closeBrace := hlexeme
    simp [Stage.beginStatement] at h
  · rename_i hlexeme
    obtain rfl : lexeme = .symbol .closeBrace := hlexeme
    simp [Stage.beginStatement] at h
  · rw [h]
    rfl

/-- The first token of a statement leads on from wherever one can begin (`Begins`). -/
theorem step_of_beginStatement {site : Site} {stage next : Stage} {t : Token}
    (h : Stage.beginStatement site t = .ok next) (hstage : Begins site stage) :
    step limit ⟨before, stage⟩ t = .shift ⟨before, next⟩ := by
  cases hstage with
  | first => simp only [step, advance, h, move]
  | behind hstage =>
      cases hstage with
      | statement => exact afterStatement_of_beginStatement h
      | @thenBranch condition body here site =>
          obtain ⟨lexeme, there⟩ := t
          simp only [step, advance]
          split
          · simp [Stage.beginStatement] at h
          · exact afterStatement_of_beginStatement h

theorem Run.begin {site : Site} {stage next : Stage} {t : Token} {s : Phrase} {q : Progress}
    (hstage : Begins site stage) (h : Stage.beginStatement site t = .ok next)
    (hrest : Run limit ⟨before, next⟩ s q) :
    Run limit ⟨before, stage⟩ (⟨t, site.depth⟩ :: s) q := by
  rw [← hstage.depth_eq]
  exact .next (step_of_beginStatement h hstage) hrest

/-- A declaration begins with the reserved word of its type. -/
theorem beginStatement_word (site : Site) (type : TypeName) (here : Location) :
    Stage.beginStatement site ⟨.keyword type.word, here⟩ = .ok (.declaredName type here site) := by
  cases type <;> rfl

/-- The value of a `return` is read as any other expression. -/
theorem Run.returned {site : Site} {here : Location} {s : Phrase} {e : Expr} {q : Progress}
    (hs : IsExpr .expression site.depth s e)
    (h : Run limit ⟨before, .factor (.begin (.returned here)) site⟩ s q) :
    Run limit ⟨before, .returned here site⟩ s q := by
  cases h with
  | done => exact absurd rfl hs.ne_nil
  | @next _ q _ t _ hstep hrest =>
      have hstep' : step limit ⟨before, .returned here site⟩ t = .shift q := by
        obtain ⟨lexeme, there⟩ := t
        simp only [step, advance] at hstep ⊢
        split
        · simp [Stage.beginFactor, move] at hstep
        · exact hstep
      exact .next hstep' hrest

end Progress

namespace Site

/-- The `Site` behind several statements. -/
def behindAll (ss : List Statement) (site : Site) : Site :=
  ss.foldl (fun site s => site.behind s) site

theorem behindAll_body (ss : List Statement) (header : Header) (before : List Statement) :
    (body header before).behindAll ss = body header (ss.reverse ++ before) := by
  induction ss generalizing before with
  | nil => rfl
  | cons s ss ih =>
      rw [List.reverse_cons, List.append_assoc]
      exact ih (s :: before)

theorem behindAll_block (ss : List Statement) (owner : BlockOwner) (before : List Statement)
    (outer : Site) :
    (block owner before outer).behindAll ss = block owner (ss.reverse ++ before) outer := by
  induction ss generalizing before with
  | nil => rfl
  | cons s ss ih =>
      rw [List.reverse_cons, List.append_assoc]
      exact ih (s :: before)

theorem behindAll_append_one (ss : List Statement) (s : Statement) (site : Site) :
    site.behindAll (ss ++ [s]) = (site.behindAll ss).behind s := by
  simp [behindAll]

@[simp] theorem depth_behindAll (ss : List Statement) (site : Site) :
    (site.behindAll ss).depth = site.depth := by
  induction ss generalizing site with
  | nil => rfl
  | cons s ss ih => exact (ih (site.behind s)).trans (depth_behind s site)

end Site

namespace Progress

variable {limit : Nat} {before : List Function}

/-! ### Statements -/

mutual

/-- A statement (`IsStatement`) leads to a stage behind itself (`Behind`). -/
theorem run_of_isStatement {depth : Nat} {s : Phrase} {st : Statement} :
    IsStatement depth s st → ∀ (site : Site) {stage : Stage}, depth = site.depth →
      NestsWithin limit s → Begins site stage →
      ∃ next, Behind (site.behind st) next ∧ Run limit ⟨before, stage⟩ s ⟨before, next⟩
  | .declaration _ _ => by
      intro site stage hdepth _ hstage
      subst hdepth
      refine ⟨_, .statement, .begin hstage (beginStatement_word ..) ?_⟩
      exact .next rfl (.single rfl)
  | .initialized _ _ _ he => by
      intro site stage hdepth hnest hstage
      subst hdepth
      simp only [nestsWithin_cons, nestsWithin_append] at hnest
      obtain ⟨operands, last, hrun, rfl⟩ := run_of_isExpr _ he hnest.2.2.2.1
      refine ⟨_, .statement, .begin hstage (beginStatement_word ..) ?_⟩
      exact .next rfl (.next rfl (hrun.append (.single rfl)))
  | .assignment _ _ he => by
      intro site stage hdepth hnest hstage
      subst hdepth
      simp only [nestsWithin_cons, nestsWithin_append] at hnest
      obtain ⟨operands, last, hrun, rfl⟩ := run_of_isExpr _ he hnest.2.2.1
      refine ⟨_, .statement, .begin hstage rfl ?_⟩
      exact .next rfl (hrun.append (.single rfl))
  | .ifThen _ _ he hbody => by
      intro site stage hdepth hnest hstage
      have hblock := run_of_isBlock hbody
      subst hdepth
      simp only [nestsWithin_cons, nestsWithin_append] at hnest
      obtain ⟨operands, last, hrun, rfl⟩ := run_of_isExpr _ he hnest.2.2.1
      refine ⟨_, .thenBranch, .begin hstage rfl (.next rfl (hrun.append ?_))⟩
      exact .next rfl (hblock (.ifThen ..) site rfl hnest.2.2.2.2)
  | .ifElse _ _ he hbody hother => by
      intro site stage hdepth hnest hstage
      have hthen := run_of_isBlock hbody
      have helse := run_of_isBlock hother
      subst hdepth
      simp only [nestsWithin_cons, nestsWithin_append] at hnest
      obtain ⟨operands, last, hrun, rfl⟩ := run_of_isExpr _ he hnest.2.2.1
      refine ⟨_, .statement, .begin hstage rfl (.next rfl (hrun.append (.next rfl ?_)))⟩
      refine (hthen (.ifThen ..) site rfl hnest.2.2.2.2.1).append (.next rfl ?_)
      exact helse (.ifElse ..) site rfl hnest.2.2.2.2.2.2
  | .whileLoop _ _ he hbody => by
      intro site stage hdepth hnest hstage
      have hblock := run_of_isBlock hbody
      subst hdepth
      simp only [nestsWithin_cons, nestsWithin_append] at hnest
      obtain ⟨operands, last, hrun, rfl⟩ := run_of_isExpr _ he hnest.2.2.1
      refine ⟨_, .statement, .begin hstage rfl (.next rfl (hrun.append ?_))⟩
      exact .next rfl (hblock (.whileLoop ..) site rfl hnest.2.2.2.2)
  | .returnNone _ => by
      intro site stage hdepth _ hstage
      subst hdepth
      exact ⟨_, .statement, .begin hstage rfl (.single rfl)⟩
  | .returnSome _ he => by
      intro site stage hdepth hnest hstage
      subst hdepth
      simp only [nestsWithin_cons, nestsWithin_append] at hnest
      obtain ⟨operands, last, hrun, rfl⟩ := run_of_isExpr (.returned _) he hnest.2.1
      refine ⟨_, .statement, .begin hstage rfl ?_⟩
      exact (Run.returned he hrun).append (.single rfl)

theorem run_of_isStatements {depth : Nat} {s : Phrase} {ss : List Statement} :
    IsStatements depth s ss → ∀ (site : Site) {stage : Stage}, depth = site.depth →
      NestsWithin limit s → Begins site stage →
      ∃ next, Behind (site.behindAll ss) next ∧ Run limit ⟨before, stage⟩ s ⟨before, next⟩
  | .one h => run_of_isStatement h
  | .more hs h => by
      intro site stage hdepth hnest hstage
      rw [nestsWithin_append] at hnest
      -- Behind the list an `else` may still be possible; the last statement begins anyway.
      obtain ⟨next, hnext, hrun⟩ := run_of_isStatements hs site hdepth hnest.1 hstage
      obtain ⟨last, hlast, hrun'⟩ := run_of_isStatement h _
        (hdepth.trans (Site.depth_behindAll ..).symm) hnest.2 (.behind hnext)
      rw [Site.behindAll_append_one]
      exact ⟨last, hlast, hrun.append hrun'⟩

/-- A block (`IsBlock`) leads behind its closing brace (`Stage.closeBlock`), whoever owns it. -/
theorem run_of_isBlock {depth : Nat} {s : Phrase} {ss : List Statement} :
    IsBlock depth s ss → ∀ (owner : BlockOwner) (site : Site), depth = site.depth →
      NestsWithin limit s →
      Run limit ⟨before, .blockOpen owner site⟩ s ⟨before, Stage.closeBlock owner ss site⟩
  | .braces opening closing hs => by
      intro owner site hdepth hnest
      have hstatements := run_of_isStatements hs
      subst hdepth
      simp only [nestsWithin_cons, nestsWithin_append] at hnest
      obtain ⟨next, hnext, hrun⟩ :=
        hstatements (.block owner [] site) rfl hnest.2.1 .first
      rw [Site.behindAll_block, List.append_nil] at hnext
      refine .next (step_openBrace owner opening hnest.2.2.1) (hrun.append ?_)
      rw [show site.depth + 1 = next.depth from hnext.depth_eq.symm]
      refine .single ((step_closeBrace hnext closing).trans ?_)
      simp only [afterStatement, List.reverse_reverse]

end

/-! ### Functions and programs -/

@[simp] theorem ofLexeme?_word (type : TypeName) :
    TypeName.ofLexeme? (.keyword type.word) = some type := by
  cases type <;> rfl

/-- A type leads from the first parameter to its name. -/
theorem step_firstParam (signature : Signature) (type : TypeName) (here : Location) :
    step limit ⟨before, .firstParam signature⟩ ⟨.keyword type.word, here⟩ =
      .shift ⟨before, .paramName signature [] type here⟩ := by
  cases type <;> rfl

theorem run_of_isParams {s : Phrase} {ps : List Param} (h : IsParams s ps) (hne : ps ≠ [])
    (signature : Signature) :
    Run limit ⟨before, .firstParam signature⟩ s
      ⟨before, .paramsNext signature ps.reverse⟩ := by
  induction h with
  | none => exact absurd rfl hne
  | one hp =>
      cases hp with
      | param atName => exact .next (step_firstParam ..) (.single rfl)
  | @more s ps u p comma hs hps hp ih =>
      cases hp with
      | @param name type here atName =>
          refine (ih hps).append (.next (q := ⟨before, .param signature ps.reverse⟩) rfl ?_)
          rw [List.reverse_append]
          refine .next (q := ⟨before, .paramName signature ps.reverse type here⟩) ?_ (.single rfl)
          simp only [step, advance, ofLexeme?_word]

theorem run_of_isHeader {s : Phrase} {header : Header} (h : IsHeader IsParams s header) :
    Run limit ⟨before, .definition⟩ s ⟨before, .firstStatement (.body header [])⟩ := by
  cases h with
  | @header s ps name type here atName opening closing brace hps =>
      have htype : step limit ⟨before, .definition⟩ ⟨.keyword type.word, here⟩ =
          .shift ⟨before, .functionName type here⟩ := by
        simp only [step, advance, ofLexeme?_word]
      refine .next htype (.next rfl (.next rfl ?_))
      by_cases hne : ps = []
      · subst hne
        obtain rfl := hps.eq_nil
        exact .next rfl (.single rfl)
      · refine (run_of_isParams hps hne ⟨name, type, here⟩).append
          (.next (q := ⟨before, .bodyOpen ⟨⟨name, type, here⟩, ps⟩⟩) ?_ (.single rfl))
        simp only [step, advance, List.reverse_reverse]

theorem run_of_isFunction {s : Phrase} {f : Function} (h : IsFunction IsParams s f)
    (hnest : NestsWithin limit s) :
    Run limit ⟨before, .definition⟩ s ⟨f :: before, .definition⟩ := by
  cases h with
  | @function s header u body closing hheader hbody =>
      simp only [nestsWithin_append] at hnest
      obtain ⟨next, hnext, hrun⟩ : ∃ next, Behind ((Site.body header []).behindAll body) next ∧
          Run limit ⟨before, .firstStatement (.body header [])⟩ u ⟨before, next⟩ :=
        run_of_isStatements hbody (.body header []) rfl hnest.2.1 .first
      rw [Site.behindAll_body, List.append_nil] at hnext
      refine (run_of_isHeader hheader).append (hrun.append ?_)
      rw [show 0 = next.depth from hnext.depth_eq.symm]
      refine .single ((step_closeBrace hnext closing).trans ?_)
      simp only [afterStatement, List.reverse_reverse]

theorem run_of_isFunctions {s : Phrase} {fs : List Function} (h : IsFunctions IsParams s fs)
    (hnest : NestsWithin limit s) :
    Run limit ⟨before, .definition⟩ s ⟨fs.reverse ++ before, .definition⟩ := by
  induction h with
  | one hf => exact run_of_isFunction hf hnest
  | @more s fs u f _ hf ih =>
      rw [nestsWithin_append] at hnest
      rw [List.reverse_append]
      exact (ih hnest.1).append (run_of_isFunction hf hnest.2)

/-- The phrase of a program (`IsProgram`) is read to its end, with its functions in the order
of their definitions, the last one first. -/
theorem run_of_isProgram {s : Phrase} {p : Program} (h : IsProgram s p)
    (hnest : NestsWithin limit s) :
    Run limit .start s ⟨p.functions.reverse, .definition⟩ := by
  have hrun : Run limit ⟨[], .definition⟩ s ⟨p.functions.reverse ++ [], .definition⟩ :=
    run_of_isFunctions h hnest
  rwa [List.append_nil] at hrun

/-- At `Stage.definition`, behind some function, the text may end. -/
theorem step_isEnd {before : List Function} (hne : before ≠ []) {t : Token}
    (ht : t.isEnd = true) :
    step limit ⟨before, .definition⟩ t = .accept ⟨before.reverse⟩ := by
  obtain ⟨f, before, rfl⟩ := List.exists_cons_of_ne_nil hne
  obtain ⟨lexeme, here⟩ := t
  cases lexeme <;> first | rfl | simp [Token.isEnd] at ht

end Progress

end SyntaxExplorer
