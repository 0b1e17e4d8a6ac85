import SyntaxExplorer.Proofs.Progress.Run

/-!
# SyntaxExplorer.Proofs.Progress.Refusal

**Where reading ends.** A token that does not lead on either completes a program
or is refused. The first happens at the end of the text, behind a whole function
(`step_accept`). For the second there are two reasons (`Refusal`): the grammar
wants something else, and then the fault names the token; or the token would open
a level, and as many as the limit allows are open (`refusal_of_step`). No token
is refused for a lack of tokens, which only a source reports.
-/

namespace SyntaxExplorer

/-- The faults that the token `t` is refused with, where `depth` levels are open
and `limit` may be. -/
inductive Refusal (limit depth : Nat) (t : Token) : SyntaxFault → Prop
  | unexpected (wanted : Expectation) : Refusal limit depth t (.unexpected t.lexeme wanted)
  | tooDeep : limit ≤ depth → Refusal limit depth t .tooDeep

namespace Stage

variable {limit depth : Nat} {site : Site} {t : Token} {fault : SyntaxFault}

theorem refusal_of_beginStatement (h : beginStatement site t = .error fault) :
    Refusal limit depth t fault := by
  unfold beginStatement at h
  split at h <;> cases h
  exact .unexpected .statement

theorem refusal_of_beginFactor {e : OpenExpr}
    (h : beginFactor limit depth e site t = .error fault) : Refusal limit depth t fault := by
  unfold beginFactor at h
  split at h
  · cases h
  · cases h
  · split at h
    · rename_i hle
      cases h
      exact .tooDeep hle
    · cases h
  · cases h
    exact .unexpected .expression

theorem refusal_of_endExpression {purpose : Purpose} {e : Expr}
    (h : endExpression purpose e site t = .error fault) : Refusal limit depth t fault := by
  cases purpose <;> simp only [endExpression] at h <;> split at h <;> cases h <;>
    exact .unexpected _

theorem refusal_of_afterFactor {e : OpenExpr} {read : Expr}
    (h : afterFactor e read site t = .error fault) : Refusal limit depth t fault := by
  obtain ⟨purpose, operands, outer⟩ := e
  simp only [afterFactor] at h
  split at h
  · cases h
  · cases h
  · cases h
  · cases h
  · cases outer with
    | nil => exact refusal_of_endExpression h
    | cons around outer =>
        simp only at h
        split at h <;> cases h
        exact .unexpected .closeParenOfExpression

end Stage

namespace Progress

variable {limit depth : Nat} {before : List Function} {t : Token} {fault : SyntaxFault}

theorem refusal_of_move {move' : Stage.Move}
    (hmove : move' = .error fault → Refusal limit depth t fault)
    (h : move before move' = .reject fault) : Refusal limit depth t fault := by
  cases move' with
  | ok => cases h
  | error => exact hmove (by cases h; rfl)

theorem refusal_of_afterStatement {site : Site}
    (h : afterStatement before site t = .reject fault) : Refusal limit depth t fault := by
  unfold afterStatement at h
  split at h
  · cases h
  · cases h
  · exact refusal_of_move Stage.refusal_of_beginStatement h

/-- A token is refused by `Progress.step` because the grammar wants something else, or because
the limit has been reached (`Refusal`). -/
theorem refusal_of_step {p : Progress} (h : p.step limit t = .reject fault) :
    Refusal limit p.stage.depth t fault := by
  obtain ⟨before, stage⟩ := p
  cases stage with
  | definition =>
      simp only [step, advance] at h
      split at h
      · cases h
      · split at h <;> cases h
        exact .unexpected .type
  | firstParam =>
      simp only [step, advance] at h
      split at h
      · cases h
      · split at h <;> cases h
        exact .unexpected .type
  | firstStatement => exact refusal_of_move Stage.refusal_of_beginStatement h
  | nextStatement => exact refusal_of_afterStatement h
  | returned =>
      simp only [step, advance] at h
      split at h
      · cases h
      · exact refusal_of_move (Stage.refusal_of_beginFactor (e := .begin (.returned _))) h
  | factor => exact refusal_of_move Stage.refusal_of_beginFactor h
  | operator => exact refusal_of_move Stage.refusal_of_afterFactor h
  | blockOpen =>
      simp only [step, advance] at h
      split at h
      · rename_i hle
        cases h
        exact .tooDeep hle
      · split at h <;> cases h
        exact .unexpected _
  | thenClosed =>
      simp only [step, advance] at h
      split at h
      · cases h
      · exact refusal_of_afterStatement h
  | _ =>
      simp only [step, advance] at h
      split at h <;> cases h
      exact .unexpected _

/-- `Progress.step` accepts the end of the text behind a whole program, and nowhere else. -/
theorem step_accept {p : Progress} {program : Program} (h : p.step limit t = .accept program) :
    t.isEnd = true ∧ p.stage = .definition ∧ p.before ≠ [] ∧ program = ⟨p.before.reverse⟩ := by
  obtain ⟨before, stage⟩ := p
  obtain ⟨lexeme, here⟩ := t
  have move_ne : ∀ m, move before m ≠ .accept program := by
    intro m
    cases m <;> simp [move]
  have after_ne : ∀ site, afterStatement before site ⟨lexeme, here⟩ ≠ .accept program := by
    intro site
    unfold afterStatement
    split <;> first | exact move_ne _ | simp
  cases stage with
  | definition =>
      simp only [step, advance] at h
      split at h
      · cases h
      · split at h <;> cases h
        exact ⟨rfl, rfl, List.cons_ne_nil _ _, rfl⟩
  | firstStatement => exact absurd h (move_ne _)
  | nextStatement => exact absurd h (after_ne _)
  | factor => exact absurd h (move_ne _)
  | operator => exact absurd h (move_ne _)
  | returned =>
      simp only [step, advance] at h
      split at h
      · cases h
      · exact absurd h (move_ne _)
  | thenClosed =>
      simp only [step, advance] at h
      split at h
      · cases h
      · exact absurd h (after_ne _)
  | blockOpen =>
      simp only [step, advance] at h
      split at h
      · cases h
      · split at h <;> cases h
  | firstParam =>
      simp only [step, advance] at h
      split at h
      · cases h
      · split at h <;> cases h
  | _ =>
      simp only [step, advance] at h
      split at h <;> cases h

end Progress

end SyntaxExplorer
