import SyntaxExplorer.Proofs.Progress.Run
import SyntaxExplorer.Proofs.Scanner.Tokens

/-!
# SyntaxExplorer.Proofs.Parser.Words

**In a program every word and every number is a whole one.** The scanner reads `5x` as
a number and a word. But behind a number the grammar wants a symbol
(`Progress.Run.isChain`), so where all tokens of a text have been read, none of them
begins inside a word (`apart_of_run`).
-/

namespace SyntaxExplorer

open Grammar

namespace Stage

variable {limit : Nat} {site : Site} {t : Token} {next : Stage}

theorem exists_symbol_of_endExpression {purpose : Purpose} {value : Expr}
    (h : endExpression purpose value site t = .ok next) : ∃ s, t.lexeme = .symbol s := by
  cases purpose <;> simp only [endExpression] at h <;> split at h <;> cases h <;>
    exact ⟨_, ‹_›⟩

/-- The token that `afterFactor` takes is a symbol. -/
theorem exists_symbol_of_afterFactor {e : OpenExpr} {read : Expr}
    (h : afterFactor e read site t = .ok next) : ∃ s, t.lexeme = .symbol s := by
  obtain ⟨purpose, operands, outer⟩ := e
  simp only [afterFactor] at h
  split at h
  · exact ⟨_, ‹_›⟩
  · exact ⟨_, ‹_›⟩
  · exact ⟨_, ‹_›⟩
  · exact ⟨_, ‹_›⟩
  · cases outer with
    | nil => exact exists_symbol_of_endExpression h
    | cons around outer =>
        simp only at h
        split at h <;> cases h
        exact ⟨_, ‹_›⟩

end Stage

namespace Progress

variable {limit : Nat} {before : List Function} {t : Token} {q : Progress} {v : Int}

theorem exists_symbol_of_operator {e : OpenExpr} {read : Expr} {site : Site}
    (h : step limit ⟨before, .operator e read site⟩ t = .shift q) :
    ∃ s, t.lexeme = .symbol s := by
  simp only [step, advance] at h
  cases hmove : Stage.afterFactor e read site t with
  | ok next => exact Stage.exists_symbol_of_afterFactor hmove
  | error fault => simp [hmove, move] at h

/-- Behind a number the stage is `.operator`, with the number as the factor. -/
theorem exists_operator_of_number {p : Progress} (ht : t.lexeme = .number v)
    (h : p.step limit t = .shift q) :
    ∃ e site, q.stage = .operator e (.ofValue v t.location) site := by
  obtain ⟨before, stage⟩ := p
  have factor : ∀ depth e site, move before (Stage.beginFactor limit depth e site t) = .shift q →
      ∃ e site, q.stage = .operator e (.ofValue v t.location) site := by
    intro depth e site hfactor
    simp only [Stage.beginFactor, ht, move] at hfactor
    cases hfactor
    exact ⟨_, _, rfl⟩
  have not_statement : ∀ site, move before (Stage.beginStatement site t) ≠ .shift q := by
    intro site
    simp [Stage.beginStatement, ht, move]
  have not_after : ∀ site, afterStatement before site t ≠ .shift q := by
    intro site
    unfold afterStatement
    split
    · simp_all
    · simp_all
    · exact not_statement _
  cases stage with
  | factor e site => exact factor _ e site h
  | returned here site =>
      simp only [step, advance, ht] at h
      exact factor _ _ site h
  | operator e read site =>
      obtain ⟨s, hs⟩ := exists_symbol_of_operator h
      simp [ht] at hs
  | firstStatement site => exact absurd h (not_statement site)
  | nextStatement site => exact absurd h (not_after site)
  | thenClosed condition thenBranch here site =>
      simp only [step, advance, ht] at h
      exact absurd h (not_after _)
  | blockOpen owner site =>
      simp only [step, advance, ht] at h
      split at h <;> cases h
  | _ => simp [step, advance, ht, TypeName.ofLexeme?] at h

/-- In a phrase that a `Run` reads, a symbol stands behind each number. -/
theorem Run.isChain {p : Progress} {s : Phrase} (h : Run limit p s q) :
    (tokens s).IsChain fun t u => ∀ v, t.lexeme = .number v → ∃ s, u.lexeme = .symbol s := by
  induction h with
  | done => exact List.isChain_nil
  | @next p q r t s hs hrest ih =>
      refine List.isChain_cons.2 ⟨?_, ih⟩
      intro u hu v ht
      obtain ⟨e, site, hstage⟩ := exists_operator_of_number ht hs
      cases hrest with
      | done => simp at hu
      | @next _ q' _ u' _ hs' _ =>
          obtain rfl : u' = u := by simpa using hu
          obtain ⟨before, stage⟩ := q
          obtain rfl : stage = _ := hstage
          exact exists_symbol_of_operator hs'

end Progress

/-- The tokens of a text that a `Run` has read are `Apart`: none begins inside a word. -/
theorem apart_of_run {limit : Nat} {text : String} {s : Phrase} {q : Progress}
    {rest : List Token} {error : Option ScanError} (hrun : Progress.Run limit .start s q)
    (hdrain : TokenSource.drain (Cursor.ofText text) = ⟨tokens s ++ rest, error⟩) :
    ∀ t ∈ tokens s, t.Apart text.toList := by
  obtain ⟨hhead, hchain⟩ := Cursor.isChain_drain text
  rw [hdrain] at hhead hchain
  have hchain := hchain.left_of_append
  have hin := Cursor.forall_mem_drain (Cursor.behind_ofText text)
  rw [hdrain] at hin
  intro t ht
  obtain ⟨front, more, hcut⟩ := List.append_of_mem ht
  obtain rfl | ⟨front, u, rfl⟩ := List.eq_nil_or_concat front
  · exact hhead t (by simp [hcut])
  · have hpair : tokens s = front ++ u :: t :: more := by simp [hcut]
    by_cases hnumber : ∃ v, u.lexeme = .number v
    · -- A symbol is apart wherever it stands.
      obtain ⟨v, hv⟩ := hnumber
      obtain ⟨symbol, hsymbol⟩ :=
        List.isChain_iff_forall_rel_of_append_cons_cons.1 hrun.isChain hpair v hv
      obtain ⟨⟨pre, hpre⟩, -⟩ := hin t (List.mem_append_left _ ht)
      exact ⟨pre, hpre, by simp [hsymbol, Lexeme.isWord]⟩
    · exact List.isChain_iff_forall_rel_of_append_cons_cons.1 hchain hpair
        fun v hv => hnumber ⟨v, hv⟩

end SyntaxExplorer
