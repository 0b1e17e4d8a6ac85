import SyntaxExplorer.Proofs.Progress.Run

/-!
# SyntaxExplorer.Proofs.Progress.Soundness

**What has been read is the beginning of a derivation.** A progress keeps trees,
and the relations `Reads` say which phrases they are the trees of: a finished
part of a derivation for every tree, and the tokens between the parts. They
follow the data of a progress: the pending operands of a level, the levels of an
expression, the sites of statements, the stage, and the functions in front of it.

One step keeps `Progress.Reads` (`reads_step`), so a run does (`reads_run`), and
where the text may end the phrase that was read is a sentence
(`Reads.isProgram`). The levels open never exceed the limit on the way
(`Run.nestsWithin`).
-/

namespace SyntaxExplorer

open Grammar

/-! ### Pending operands -/

namespace Pending

/-- The phrase of a pending operation: its left operand, derived from `layer`,
and the operator. -/
inductive Reads (layer : Layer) (additive : Bool) (depth : Nat) : Phrase → Option Pending → Prop
  | none : Reads layer additive depth [] none
  | some {s p} : IsExpr layer depth s p.left → p.op.isAdditive = additive →
      Reads layer additive depth (s ++ [sym p.op.sign p.location depth]) (some p)

end Pending

namespace Operands

/-- The phrase of the pending `Operands` of one level. -/
inductive Reads (depth : Nat) : Phrase → Operands → Prop
  | operands {s u o} : Pending.Reads .expression true depth s o.sum →
      Pending.Reads .term false depth u o.product → Reads depth (s ++ u) o

variable {depth : Nat}

theorem reads_none : Reads depth [] none :=
  .operands (s := []) .none .none

theorem isExpr_term {s u : Phrase} {o : Operands} {e : Expr}
    (hs : Pending.Reads .term false depth s o.product) (he : IsExpr .factor depth u e) :
    IsExpr .term depth (s ++ u) (o.term e) := by
  obtain ⟨sum, product⟩ := o
  cases hs with
  | none => exact .ofFactor he
  | some hleft hop =>
      rw [List.append_assoc, List.singleton_append]
      exact .product hop hleft he

/-- The factor behind the pending operands completes an expression (`Operands.expression`). -/
theorem Reads.isExpr {s u : Phrase} {o : Operands} {e : Expr} (hs : Reads depth s o)
    (he : IsExpr .factor depth u e) : IsExpr .expression depth (s ++ u) (o.expression e) := by
  cases hs with
  | operands hsum hproduct =>
      have hterm := isExpr_term hproduct he
      obtain ⟨sum, product⟩ := o
      rw [List.append_assoc]
      cases hsum with
      | none => exact .ofTerm hterm
      | some hleft hop =>
          rw [List.append_assoc, List.singleton_append]
          exact .sum hop hleft hterm

theorem Reads.thenSum {s u : Phrase} {o : Operands} {e : Expr} {op : Operator} (here : Location)
    (hs : Reads depth s o) (he : IsExpr .factor depth u e) (hop : op.isAdditive = true) :
    Reads depth (s ++ (u ++ [sym op.sign here depth])) (o.thenSum e op here) := by
  have hsum : Pending.Reads .expression true depth _ (o.thenSum e op here).sum :=
    .some (hs.isExpr he) hop
  simpa only [List.append_assoc, List.append_nil] using Reads.operands hsum .none

theorem Reads.thenProduct {s u : Phrase} {o : Operands} {e : Expr} {op : Operator}
    (here : Location) (hs : Reads depth s o) (he : IsExpr .factor depth u e)
    (hop : op.isAdditive = false) :
    Reads depth (s ++ (u ++ [sym op.sign here depth])) (o.thenProduct e op here) := by
  cases hs with
  | operands hsum hproduct =>
      have hnew : Pending.Reads .term false depth _ (o.thenProduct e op here).product :=
        .some (isExpr_term hproduct he) hop
      rw [List.append_assoc, ← List.append_assoc _ u]
      exact .operands (o := o.thenProduct e op here) hsum hnew

end Operands

/-! ### Open expressions -/

/-- The phrase of the levels around the innermost one (`OpenExpr.outer`), each up to the
parenthesis that opens the next. -/
inductive LevelsRead (base : Nat) : Phrase → List Operands → Prop
  | none : LevelsRead base [] []
  | level {s outer u o} (opening : Location) : LevelsRead base s outer →
      Operands.Reads (base + outer.length) u o →
      LevelsRead base (s ++ (u ++ [sym .openParen opening (base + outer.length)])) (o :: outer)

/-- The phrase in front of an expression that is read for a statement, by its `Purpose`. -/
inductive Purpose.Reads (depth : Nat) : Phrase → Purpose → Prop
  | initializer {name type here} (atName atSign : Location) :
      Reads depth [key type.word here depth, ident name atName depth, sym .assign atSign depth]
        (.initializer name type here)
  | assigned {name here} (atSign : Location) :
      Reads depth [ident name here depth, sym .assign atSign depth] (.assigned name here)
  | ifCondition {here} (opening : Location) :
      Reads depth [key .ifWord here depth, sym .openParen opening depth] (.ifCondition here)
  | whileCondition {here} (opening : Location) :
      Reads depth [key .whileWord here depth, sym .openParen opening depth] (.whileCondition here)
  | returned {here} : Reads depth [key .returnWord here depth] (.returned here)

/-- The phrase of an `OpenExpr`, from the beginning of its statement on. -/
inductive OpenExpr.Reads (base : Nat) : Phrase → OpenExpr → Prop
  | openExpr {s u v e} : Purpose.Reads base s e.purpose → LevelsRead base u e.outer →
      Operands.Reads (base + e.outer.length) v e.operands → Reads base (s ++ (u ++ v)) e

theorem OpenExpr.reads_begin {base : Nat} {s : Phrase} {purpose : Purpose}
    (h : Purpose.Reads base s purpose) : OpenExpr.Reads base s (.begin purpose) := by
  have hbegin := OpenExpr.Reads.openExpr (e := .begin purpose) h .none Operands.reads_none
  rwa [List.append_nil, List.append_nil] at hbegin

/-! ### Sites -/

/-- The statements in front of a place, the last one first, are those of the phrase
(`IsStatements`). -/
inductive StatementsRead (depth : Nat) : Phrase → List Statement → Prop
  | none : StatementsRead depth [] []
  | some {s before} : IsStatements depth s before.reverse → StatementsRead depth s before

theorem StatementsRead.isStatements {depth : Nat} {s u : Phrase} {before : List Statement}
    {st : Statement} (hs : StatementsRead depth s before) (h : IsStatement depth u st) :
    IsStatements depth (s ++ u) (st :: before).reverse := by
  cases hs with
  | none => exact .one h
  | some hs =>
      rw [List.reverse_cons]
      exact .more hs h

/-- The phrase of a statement up to the block that its `BlockOwner` wants. -/
inductive BlockOwner.Reads (depth : Nat) : Phrase → BlockOwner → Prop
  | ifThen {s e here} (opening closing : Location) : IsExpr .expression depth s e →
      Reads depth
        (key .ifWord here depth :: sym .openParen opening depth ::
          (s ++ [sym .closeParen closing depth]))
        (.ifThen e here)
  | ifElse {s e u body elseHere here} (opening closing : Location) :
      IsExpr .expression depth s e → IsBlock depth u body →
      Reads depth
        (key .ifWord here depth :: sym .openParen opening depth ::
          (s ++ sym .closeParen closing depth :: (u ++ [key .elseWord elseHere depth])))
        (.ifElse e body elseHere here)
  | whileLoop {s e here} (opening closing : Location) : IsExpr .expression depth s e →
      Reads depth
        (key .whileWord here depth :: sym .openParen opening depth ::
          (s ++ [sym .closeParen closing depth]))
        (.whileLoop e here)

namespace Site

/-- The phrase of a function up to a `Site` in its body. -/
inductive Reads : Phrase → Site → Prop
  | body {s header u before} : IsHeader IsParams s header → StatementsRead 0 u before →
      Reads (s ++ u) (body header before)
  | block {s outer u owner v before} (opening : Location) : Reads s outer →
      BlockOwner.Reads outer.depth u owner → StatementsRead (outer.depth + 1) v before →
      Reads (s ++ (u ++ sym .openBrace opening outer.depth :: v)) (block owner before outer)

/-- The statements in front of the place, the last one first. -/
def statements : Site → List Statement
  | body _ before => before
  | block _ before _ => before

theorem Reads.behind {s u : Phrase} {site : Site} {st : Statement} (hs : Reads s site)
    (h : IsStatement site.depth u st) : Reads (s ++ u) (site.behind st) := by
  cases hs with
  | body hheader hbefore =>
      rw [List.append_assoc]
      exact .body hheader (.some (hbefore.isStatements h))
  | block opening houter howner hbefore =>
      rw [List.append_assoc, List.append_assoc, List.cons_append]
      exact .block opening houter howner (.some (hbefore.isStatements h))

theorem statements_behind (st : Statement) (site : Site) :
    (site.behind st).statements ≠ [] := by
  cases site <;> simp [behind, statements]

end Site

/-! ### Stages -/

/-- The phrase of a function in front of its parameters, by its `Signature`. -/
inductive Signature.Reads : Phrase → Signature → Prop
  | signature {name type here} (atName opening : Location) :
      Reads [key type.word here 0, ident name atName 0, sym .openParen opening 0]
        ⟨name, type, here⟩

theorem Signature.Reads.isHeader {s u : Phrase} {signature : Signature} {params : List Param}
    (closing brace : Location) (hs : Signature.Reads s signature) (h : IsParams u params) :
    IsHeader IsParams (s ++ (u ++ [sym .closeParen closing 0, sym .openBrace brace 0]))
      ⟨signature, params⟩ := by
  cases hs with
  | signature atName opening => exact .header atName opening closing brace h

/-- The parameters in front of one that is wanted, the last one first, are those of the phrase
(`IsParams`). It ends with the comma behind them. -/
inductive ParamsRead : Phrase → List Param → Prop
  | none : ParamsRead [] []
  | some {s before} (comma : Location) : IsParams s before.reverse → before ≠ [] →
      ParamsRead (s ++ [sym .comma comma 0]) before

theorem ParamsRead.isParams {s u : Phrase} {before : List Param} {p : Param}
    (hs : ParamsRead s before) (h : IsParam u p) : IsParams (s ++ u) (p :: before).reverse := by
  cases hs with
  | none => exact .one h
  | some comma hs hne =>
      rw [List.reverse_cons, List.append_assoc, List.singleton_append]
      exact .more comma hs (by simpa using hne) h

/-- The phrase of a function up to a `Stage`. -/
inductive Stage.Reads : Phrase → Stage → Prop
  | definition : Reads [] .definition
  | functionName {type here} : Reads [key type.word here 0] (.functionName type here)
  | paramsOpen {name type here} (atName : Location) :
      Reads [key type.word here 0, ident name atName 0] (.paramsOpen ⟨name, type, here⟩)
  | firstParam {s signature} : Signature.Reads s signature → Reads s (.firstParam signature)
  | param {s signature u before} : Signature.Reads s signature → ParamsRead u before →
      Reads (s ++ u) (.param signature before)
  | paramName {s signature u before type here} : Signature.Reads s signature →
      ParamsRead u before →
      Reads (s ++ (u ++ [key type.word here 0])) (.paramName signature before type here)
  | paramsNext {s signature u before} : Signature.Reads s signature →
      IsParams u before.reverse → before ≠ [] → Reads (s ++ u) (.paramsNext signature before)
  | bodyOpen {s header u} (closing : Location) : Signature.Reads s header.signature →
      IsParams u header.params →
      Reads (s ++ (u ++ [sym .closeParen closing 0])) (.bodyOpen header)
  | firstStatement {s site} : Site.Reads s site → Reads s (.firstStatement site)
  | nextStatement {s site} : Site.Reads s site → site.statements ≠ [] →
      Reads s (.nextStatement site)
  | declaredName {s site type here} : Site.Reads s site →
      Reads (s ++ [key type.word here site.depth]) (.declaredName type here site)
  | initializer {s site name type here} (atName : Location) : Site.Reads s site →
      Reads (s ++ [key type.word here site.depth, ident name atName site.depth])
        (.initializer name type here site)
  | assignSign {s site name here} : Site.Reads s site →
      Reads (s ++ [ident name here site.depth]) (.assignSign name here site)
  | ifOpen {s site here} : Site.Reads s site →
      Reads (s ++ [key .ifWord here site.depth]) (.ifOpen here site)
  | whileOpen {s site here} : Site.Reads s site →
      Reads (s ++ [key .whileWord here site.depth]) (.whileOpen here site)
  | returned {s site here} : Site.Reads s site →
      Reads (s ++ [key .returnWord here site.depth]) (.returned here site)
  | factor {s site u e} : Site.Reads s site → OpenExpr.Reads site.depth u e →
      Reads (s ++ u) (.factor e site)
  | operator {s site u e v read} : Site.Reads s site → OpenExpr.Reads site.depth u e →
      IsExpr .factor (site.depth + e.outer.length) v read →
      Reads (s ++ (u ++ v)) (.operator e read site)
  | blockOpen {s site u owner} : Site.Reads s site → BlockOwner.Reads site.depth u owner →
      Reads (s ++ u) (.blockOpen owner site)
  | thenClosed {s site u condition v body here} (opening closing : Location) :
      Site.Reads s site → IsExpr .expression site.depth u condition →
      IsBlock site.depth v body →
      Reads
        (s ++ key .ifWord here site.depth :: sym .openParen opening site.depth ::
          (u ++ sym .closeParen closing site.depth :: v))
        (.thenClosed condition body here site)

namespace Stage

variable {limit : Nat} {s u v : Phrase} {site : Site} {t : Token} {next : Stage}

theorem reads_beginStatement (hs : Site.Reads s site) (h : beginStatement site t = .ok next) :
    Reads (s ++ [⟨t, site.depth⟩]) next := by
  obtain ⟨lexeme, here⟩ := t
  simp only [beginStatement] at h
  split at h <;> cases h
  · exact @Reads.declaredName _ _ .int _ hs
  · exact @Reads.declaredName _ _ .char _ hs
  · exact @Reads.declaredName _ _ .void _ hs
  · exact .assignSign hs
  · exact .ifOpen hs
  · exact .whileOpen hs
  · exact .returned hs

theorem reads_beginFactor {depth : Nat} {e : OpenExpr} (hs : Site.Reads s site)
    (he : OpenExpr.Reads site.depth u e) (h : beginFactor limit depth e site t = .ok next) :
    Reads (s ++ (u ++ [⟨t, site.depth + e.outer.length⟩])) next := by
  obtain ⟨lexeme, here⟩ := t
  simp only [beginFactor] at h
  split at h
  · cases h
    exact .operator hs he .number
  · cases h
    exact .operator hs he .id
  · split at h
    · cases h
    · cases h
      cases he with
      | openExpr hpurpose hlevels hoperands =>
          have hnew : OpenExpr.Reads site.depth _ ⟨e.purpose, .none, e.operands :: e.outer⟩ :=
            .openExpr hpurpose (.level here hlevels hoperands) Operands.reads_none
          simpa only [List.append_assoc, List.append_nil] using Reads.factor hs hnew
  · cases h

/-- The statement that `endExpression` completes, or its block, goes on from the token behind
the expression. -/
theorem reads_endExpression {purpose : Purpose} {e : Expr} (hs : Site.Reads s site)
    (hpurpose : Purpose.Reads site.depth u purpose) (he : IsExpr .expression site.depth v e)
    (h : endExpression purpose e site t = .ok next) :
    Reads (s ++ (u ++ (v ++ [⟨t, site.depth⟩]))) next := by
  obtain ⟨lexeme, here⟩ := t
  cases hpurpose with
  | initializer atName atSign =>
      simp only [endExpression] at h
      split at h <;> cases h
      exact .nextStatement (hs.behind (.initialized atName atSign here he))
        (Site.statements_behind _ _)
  | assigned atSign =>
      simp only [endExpression] at h
      split at h <;> cases h
      exact .nextStatement (hs.behind (.assignment atSign here he)) (Site.statements_behind _ _)
  | ifCondition opening =>
      simp only [endExpression] at h
      split at h <;> cases h
      exact .blockOpen hs (.ifThen opening here he)
  | whileCondition opening =>
      simp only [endExpression] at h
      split at h <;> cases h
      exact .blockOpen hs (.whileLoop opening here he)
  | returned =>
      simp only [endExpression] at h
      split at h <;> cases h
      exact .nextStatement (hs.behind (.returnSome here he)) (Site.statements_behind _ _)

theorem reads_afterFactor {e : OpenExpr} {read : Expr} (hs : Site.Reads s site)
    (he : OpenExpr.Reads site.depth u e)
    (hread : IsExpr .factor (site.depth + e.outer.length) v read)
    (h : afterFactor e read site t = .ok next) :
    Reads (s ++ (u ++ (v ++ [⟨t, site.depth + e.outer.length⟩]))) next := by
  cases he with
  | @openExpr s₁ s₂ s₃ e hpurpose hlevels hoperands =>
      have sum : ∀ (op : Operator) here, op.isAdditive = true →
          Reads (s ++ (s₁ ++ (s₂ ++ s₃) ++
              (v ++ [sym op.sign here (site.depth + e.outer.length)])))
            (.factor { e with operands := e.operands.thenSum read op here } site) := by
        intro op here hop
        have hnew : OpenExpr.Reads site.depth _
            { e with operands := e.operands.thenSum read op here } :=
          .openExpr hpurpose hlevels (hoperands.thenSum here hread hop)
        simpa only [List.append_assoc] using Reads.factor hs hnew
      have product : ∀ (op : Operator) here, op.isAdditive = false →
          Reads (s ++ (s₁ ++ (s₂ ++ s₃) ++
              (v ++ [sym op.sign here (site.depth + e.outer.length)])))
            (.factor { e with operands := e.operands.thenProduct read op here } site) := by
        intro op here hop
        have hnew : OpenExpr.Reads site.depth _
            { e with operands := e.operands.thenProduct read op here } :=
          .openExpr hpurpose hlevels (hoperands.thenProduct here hread hop)
        simpa only [List.append_assoc] using Reads.factor hs hnew
      have hvalue := hoperands.isExpr hread
      obtain ⟨lexeme, here⟩ := t
      simp only [afterFactor] at h
      split at h
      · cases h
        exact product .mul here rfl
      · cases h
        exact product .div here rfl
      · cases h
        exact sum .add here rfl
      · cases h
        exact sum .sub here rfl
      · obtain ⟨purpose, operands, outer⟩ := e
        cases hlevels with
        | none =>
            simpa only [List.append_assoc, List.nil_append, List.length_nil, Nat.add_zero] using
              reads_endExpression hs hpurpose hvalue h
        | @level s₄ outer s₅ around opening hlevels haround =>
            simp only at h
            split at h
            · -- The level is closed, and its expression is a factor of the level around it.
              cases h
              have hparens : IsExpr .factor (site.depth + outer.length) _ _ :=
                .parens opening here hvalue
              have hnew : OpenExpr.Reads site.depth _ ⟨purpose, around, outer⟩ :=
                .openExpr hpurpose hlevels haround
              simpa only [List.append_assoc, List.cons_append, List.nil_append, List.length_cons,
                Nat.add_assoc] using Reads.operator hs hnew hparens
            · cases h

/-- Behind its block a statement is complete, or an `if` that may have an `else`. -/
theorem reads_closeBlock {owner : BlockOwner} {body : List Statement} (hs : Site.Reads s site)
    (howner : BlockOwner.Reads site.depth u owner) (hbody : IsBlock site.depth v body) :
    Reads (s ++ (u ++ v)) (closeBlock owner body site) := by
  cases howner with
  | ifThen opening closing he =>
      simpa only [List.append_assoc, List.cons_append, List.nil_append, closeBlock] using
        Reads.thenClosed opening closing hs he hbody
  | @ifElse _ condition _ thenBranch elseHere here opening closing he hthen =>
      have hstatement : IsStatement site.depth _
          (.ifElse condition thenBranch body elseHere here) :=
        .ifElse opening closing he hthen hbody
      simpa only [List.append_assoc, List.cons_append, List.nil_append, closeBlock] using
        Reads.nextStatement (hs.behind hstatement) (Site.statements_behind _ _)
  | @whileLoop _ condition here opening closing he =>
      have hstatement : IsStatement site.depth _ (.whileLoop condition body here) :=
        .whileLoop opening closing he hbody
      simpa only [List.append_assoc, List.cons_append, List.nil_append, closeBlock] using
        Reads.nextStatement (hs.behind hstatement) (Site.statements_behind _ _)

end Stage

/-! ### Programs -/

/-- The functions that were read, the last one first, are those of the phrase (`IsFunctions`). -/
inductive FunctionsRead : Phrase → List Function → Prop
  | none : FunctionsRead [] []
  | some {s before} : IsFunctions IsParams s before.reverse → FunctionsRead s before

theorem FunctionsRead.append {s u : Phrase} {before : List Function} {f : Function}
    (hs : FunctionsRead s before) (h : IsFunction IsParams u f) :
    FunctionsRead (s ++ u) (f :: before) := by
  cases hs with
  | none => exact .some (.one h)
  | some hs =>
      refine .some ?_
      rw [List.reverse_cons]
      exact .more hs h

namespace Progress

/-- The phrase of everything that was read up to a `Progress`: whole functions, and one up to a
`Stage`. -/
inductive Reads : Phrase → Progress → Prop
  | progress {s u before stage} : FunctionsRead s before → Stage.Reads u stage →
      Reads (s ++ u) ⟨before, stage⟩

variable {limit : Nat} {s u : Phrase} {before : List Function} {t : Token} {q : Progress}

theorem reads_move {move' : Stage.Move} (hs : FunctionsRead s before)
    (hmove : ∀ next, move' = .ok next → Stage.Reads u next)
    (h : move before move' = .shift q) : Reads (s ++ u) q := by
  cases move' with
  | error => cases h
  | ok next =>
      cases h
      exact .progress hs (hmove next rfl)

theorem reads_afterStatement {site : Site} (hs : FunctionsRead s before)
    (hsite : Site.Reads u site) (hne : site.statements ≠ [])
    (h : afterStatement before site t = .shift q) :
    Reads (s ++ (u ++ [⟨t, site.depth⟩])) q := by
  obtain ⟨lexeme, here⟩ := t
  simp only [afterStatement] at h
  split at h
  · -- The function is complete.
    cases h
    cases hsite with
    | body hheader hbefore =>
        cases hbefore with
        | none => exact absurd rfl hne
        | some hbefore =>
            rw [List.append_assoc, ← List.append_nil (s ++ _)]
            exact .progress (hs.append (.function here hheader hbefore)) .definition
  · -- The block is complete.
    cases h
    cases hsite with
    | block opening houter howner hbefore =>
        cases hbefore with
        | none => exact absurd rfl hne
        | some hbefore =>
            have hblock := Stage.reads_closeBlock houter howner (.braces opening here hbefore)
            simpa only [List.append_assoc, List.cons_append, Site.depth] using
              Reads.progress hs hblock
  · exact reads_move hs (fun _ => Stage.reads_beginStatement hsite) h

theorem eq_word_of_ofLexeme? {lexeme : Lexeme} {type : TypeName}
    (h : TypeName.ofLexeme? lexeme = some type) : lexeme = .keyword type.word := by
  unfold TypeName.ofLexeme? at h
  split at h <;> cases h <;> rfl

/-- One token more has been read (`Reads`) behind every `Progress.step`. -/
theorem reads_step {p : Progress} (hp : Reads s p) (h : p.step limit t = .shift q) :
    Reads (s ++ [⟨t, p.stage.depth⟩]) q := by
  obtain ⟨lexeme, here⟩ := t
  cases hp with
  | @progress s u before stage hs hstage =>
  -- In every case the token joins the phrase of the function that is being read.
  rw [List.append_assoc]
  cases hstage with
  | definition =>
      simp only [step, advance] at h
      split at h
      · rename_i type htype
        obtain rfl := eq_word_of_ofLexeme? htype
        cases h
        exact .progress hs .functionName
      · split at h <;> cases h
  | functionName =>
      simp only [step, advance] at h
      split at h <;> cases h
      exact .progress hs (.paramsOpen here)
  | paramsOpen atName =>
      simp only [step, advance] at h
      split at h <;> cases h
      exact .progress hs (.firstParam (.signature atName here))
  | firstParam hsignature =>
      simp only [step, advance] at h
      split at h
      · cases h
        exact .progress hs (.bodyOpen (u := []) here hsignature .none)
      · split at h
        · rename_i type htype
          obtain rfl := eq_word_of_ofLexeme? htype
          cases h
          exact .progress hs (.paramName hsignature .none)
        · cases h
  | param hsignature hparams =>
      simp only [step, advance] at h
      split at h
      · rename_i type htype
        obtain rfl := eq_word_of_ofLexeme? htype
        cases h
        rw [List.append_assoc]
        exact .progress hs (.paramName hsignature hparams)
      · cases h
  | @paramName _ _ _ params type there hsignature hparams =>
      simp only [step, advance] at h
      split at h <;> cases h
      rename_i name
      have hlist : IsParams _ (⟨name, type, there⟩ :: params).reverse :=
        hparams.isParams (.param here)
      simpa only [List.append_assoc, List.cons_append, List.nil_append, Stage.depth] using
        Reads.progress hs (.paramsNext hsignature hlist (List.cons_ne_nil _ _))
  | paramsNext hsignature hparams hne =>
      simp only [step, advance] at h
      split at h
      · cases h
        rw [List.append_assoc]
        exact .progress hs (.param hsignature (.some here hparams hne))
      · cases h
        rw [List.append_assoc]
        exact .progress hs (.bodyOpen here hsignature hparams)
      · cases h
  | bodyOpen closing hsignature hparams =>
      simp only [step, advance] at h
      split at h <;> cases h
      have hsite := Site.Reads.body (hsignature.isHeader closing here hparams) .none
      simpa only [List.append_assoc, List.cons_append, List.nil_append, List.append_nil,
        Stage.depth] using Reads.progress hs (.firstStatement hsite)
  | firstStatement hsite =>
      exact reads_move hs (fun _ => Stage.reads_beginStatement hsite) h
  | nextStatement hsite hne => exact reads_afterStatement hs hsite hne h
  | declaredName hsite =>
      simp only [step, advance] at h
      split at h <;> cases h
      rw [List.append_assoc]
      exact .progress hs (.initializer here hsite)
  | initializer atName hsite =>
      simp only [step, advance] at h
      split at h
      · cases h
        rw [List.append_assoc]
        exact .progress hs (.factor hsite (OpenExpr.reads_begin (.initializer atName here)))
      · cases h
        rw [List.append_assoc]
        exact .progress hs
          (.nextStatement (hsite.behind (.declaration atName here)) (Site.statements_behind _ _))
      · cases h
  | assignSign hsite =>
      simp only [step, advance] at h
      split at h <;> cases h
      rw [List.append_assoc]
      exact .progress hs (.factor hsite (OpenExpr.reads_begin (.assigned here)))
  | ifOpen hsite =>
      simp only [step, advance] at h
      split at h <;> cases h
      rw [List.append_assoc]
      exact .progress hs (.factor hsite (OpenExpr.reads_begin (.ifCondition here)))
  | whileOpen hsite =>
      simp only [step, advance] at h
      split at h <;> cases h
      rw [List.append_assoc]
      exact .progress hs (.factor hsite (OpenExpr.reads_begin (.whileCondition here)))
  | returned hsite =>
      simp only [step, advance] at h
      rw [List.append_assoc]
      split at h
      · cases h
        exact .progress hs
          (.nextStatement (hsite.behind (.returnNone here)) (Site.statements_behind _ _))
      · exact reads_move hs
          (fun _ => Stage.reads_beginFactor hsite (OpenExpr.reads_begin .returned)) h
  | factor hsite he =>
      rw [List.append_assoc]
      exact reads_move hs (fun _ => Stage.reads_beginFactor hsite he) h
  | operator hsite he hread =>
      rw [List.append_assoc, List.append_assoc]
      exact reads_move hs (fun _ => Stage.reads_afterFactor hsite he hread) h
  | blockOpen hsite howner =>
      simp only [step, advance] at h
      split at h
      · cases h
      · split at h <;> cases h
        rw [List.append_assoc]
        exact .progress hs (.firstStatement (.block here hsite howner .none))
  | @thenClosed _ site _ condition _ body there opening closing hsite hcondition hbody =>
      simp only [step, advance] at h
      split at h
      · cases h
        have howner : BlockOwner.Reads site.depth _ (.ifElse condition body here there) :=
          .ifElse opening closing hcondition hbody
        simpa only [List.append_assoc, List.cons_append, Stage.depth] using
          Reads.progress hs (.blockOpen hsite howner)
      · -- Without an `else` the statement is complete, and the token follows it.
        have hstatement : IsStatement site.depth _ (.ifThen condition body there) :=
          .ifThen opening closing hcondition hbody
        have hnext := reads_afterStatement hs (hsite.behind hstatement)
          (Site.statements_behind _ _) h
        rwa [Site.depth_behind] at hnext

/-- A `Run` reads its phrase (`Reads`). -/
theorem reads_run {p : Progress} (h : Run limit p u q) (hp : Reads s p) : Reads (s ++ u) q := by
  induction h generalizing s with
  | done => rwa [List.append_nil]
  | next hs _ ih =>
      have hnext := ih (reads_step hp hs)
      rwa [List.append_assoc, List.singleton_append] at hnext

theorem reads_start : Reads [] .start :=
  .progress (s := []) .none .definition

/-- At `Stage.definition`, everything that was read is a program (`IsProgram`). -/
theorem Reads.isProgram (h : Reads s ⟨before, .definition⟩) (hne : before ≠ []) :
    IsProgram s ⟨before.reverse⟩ := by
  cases h with
  | progress hs hstage =>
      cases hstage with
      | definition =>
          rw [List.append_nil]
          cases hs with
          | none => exact absurd rfl hne
          | some hs => exact hs

/-- At `Progress.start` nothing was read. -/
theorem Reads.eq_nil (h : Reads s .start) : s = [] := by
  cases h with
  | progress hs hstage =>
      cases hstage with
      | definition =>
          rw [List.append_nil]
          cases hs with
          | none => rfl
          | some hs => exact absurd rfl hs.ne_nil

end Progress

end SyntaxExplorer
