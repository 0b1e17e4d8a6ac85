import SyntaxExplorer.Proofs.Grammar
import SyntaxExplorer.Proofs.Program.Shape

/-!
# SyntaxExplorer.Proofs.Grammar.Relocation

**The grammar does not look at locations.** A production asks for lexemes and
depths, and whatever stands at the locations of its tokens, it holds. So a phrase
that is a sentence remains one when its tokens are moved (`Relocated`), and its
tree changes in nothing but the locations (`exists_isProgram_of_relocated`).
-/

namespace SyntaxExplorer

namespace Grammar

/-- The token with its depth, but without its location. -/
def Placed.unlocated (x : Placed) : Placed := ⟨⟨x.token.lexeme, .nowhere⟩, x.depth⟩

/-- The second phrase is the first one with its tokens at other locations. -/
def Relocated (s s' : Phrase) : Prop := s'.map Placed.unlocated = s.map Placed.unlocated

theorem relocated_nil {s' : Phrase} : Relocated [] s' ↔ s' = [] := by
  simp [Relocated]

/-- `Relocated` goes part by part. -/
theorem relocated_append {s u s' : Phrase} :
    Relocated (s ++ u) s' ↔ ∃ s₁ u₁, s' = s₁ ++ u₁ ∧ Relocated s s₁ ∧ Relocated u u₁ := by
  rw [Relocated, List.map_append, List.map_eq_append_iff]
  rfl

theorem relocated_cons {l : Lexeme} {here : Location} {depth : Nat} {s s' : Phrase} :
    Relocated (⟨⟨l, here⟩, depth⟩ :: s) s' ↔
      ∃ here' s₁, s' = ⟨⟨l, here'⟩, depth⟩ :: s₁ ∧ Relocated s s₁ := by
  constructor
  · intro h
    obtain ⟨⟨⟨l', here'⟩, depth'⟩, s₁, rfl, hx, hs⟩ := List.map_eq_cons_iff.1 h
    simp only [Placed.unlocated, Placed.mk.injEq, Token.mk.injEq, and_true] at hx
    obtain ⟨rfl, rfl⟩ := hx
    exact ⟨here', s₁, rfl, hs⟩
  · rintro ⟨here', s₁, rfl, hs⟩
    exact congrArg (List.cons ⟨⟨l, .nowhere⟩, depth⟩) hs

/-- A `Relocated` phrase `NestsWithin` the same limits: moving a token does not change its
depth. -/
theorem Relocated.nestsWithin {limit : Nat} {s s' : Phrase} (h : Relocated s s')
    (hs : NestsWithin limit s) : NestsWithin limit s' := by
  have hiff : ∀ u : Phrase,
      NestsWithin limit u ↔ ∀ x ∈ u.map Placed.unlocated, x.depth ≤ limit := by
    simp [NestsWithin, Placed.unlocated]
  rw [hiff] at hs ⊢
  rwa [h]

/-- Tokens with the lexemes of a phrase are the `tokens` of a `Relocated` phrase. -/
theorem exists_relocated {s : Phrase} {ts : List Token}
    (h : ts.map Token.lexeme = (tokens s).map Token.lexeme) :
    ∃ s', tokens s' = ts ∧ Relocated s s' := by
  induction s generalizing ts with
  | nil => exact ⟨[], by simpa using h.symm, rfl⟩
  | cons x s ih =>
      obtain ⟨⟨l, here⟩, depth⟩ := x
      obtain ⟨⟨l', here'⟩, ts, rfl, rfl, hts⟩ := List.map_eq_cons_iff.1 h
      obtain ⟨s', rfl, hs'⟩ := ih hts
      exact ⟨⟨⟨l', here'⟩, depth⟩ :: s', rfl, relocated_cons.2 ⟨here', s', rfl, hs'⟩⟩

/-! ### Expressions -/

theorem exists_isExpr_of_relocated {layer : Layer} {depth : Nat} {s s' : Phrase} {e : Expr}
    (h : IsExpr layer depth s e) (hs : Relocated s s') :
    ∃ e', IsExpr layer depth s' e' ∧ e'.unlocated = e.unlocated := by
  induction h generalizing s' with
  | ofTerm _ ih =>
      obtain ⟨e', he', hsame⟩ := ih hs
      exact ⟨e', .ofTerm he', hsame⟩
  | ofFactor _ ih =>
      obtain ⟨e', he', hsame⟩ := ih hs
      exact ⟨e', .ofFactor he', hsame⟩
  | sum hop _ _ ihl ihr =>
      simp only [relocated_cons, relocated_append] at hs
      obtain ⟨s₁, _, rfl, hs₁, here, u₁, rfl, hu₁⟩ := hs
      obtain ⟨left, hleft, hsamel⟩ := ihl hs₁
      obtain ⟨right, hright, hsamer⟩ := ihr hu₁
      exact ⟨_, .sum hop hleft hright, by simp only [Expr.unlocated, hsamel, hsamer]⟩
  | product hop _ _ ihl ihr =>
      simp only [relocated_cons, relocated_append] at hs
      obtain ⟨s₁, _, rfl, hs₁, here, u₁, rfl, hu₁⟩ := hs
      obtain ⟨left, hleft, hsamel⟩ := ihl hs₁
      obtain ⟨right, hright, hsamer⟩ := ihr hu₁
      exact ⟨_, .product hop hleft hright, by simp only [Expr.unlocated, hsamel, hsamer]⟩
  | number =>
      simp only [relocated_cons, relocated_nil] at hs
      obtain ⟨here, _, rfl, rfl⟩ := hs
      exact ⟨_, .number, rfl⟩
  | id =>
      simp only [relocated_cons, relocated_nil] at hs
      obtain ⟨here, _, rfl, rfl⟩ := hs
      exact ⟨_, .id, rfl⟩
  | parens _ _ _ ih =>
      simp only [List.cons_append, relocated_cons, relocated_append, relocated_nil] at hs
      obtain ⟨opening, _, rfl, s₁, _, rfl, hs₁, closing, _, rfl, rfl⟩ := hs
      obtain ⟨e', he', hsame⟩ := ih hs₁
      exact ⟨e', .parens opening closing he', hsame⟩

/-! ### Statements -/

mutual

theorem exists_isStatement_of_relocated {depth : Nat} {s s' : Phrase} {st : Statement} :
    IsStatement depth s st → Relocated s s' →
      ∃ st', IsStatement depth s' st' ∧ st'.unlocated = st.unlocated
  | .declaration _ _ => by
      intro hs
      simp only [relocated_cons, relocated_nil] at hs
      obtain ⟨here, _, rfl, atName, _, rfl, atEnd, _, rfl, rfl⟩ := hs
      exact ⟨_, .declaration atName atEnd, rfl⟩
  | .initialized _ _ _ he => by
      intro hs
      simp only [relocated_cons, relocated_append, relocated_nil] at hs
      obtain ⟨here, _, rfl, atName, _, rfl, atSign, _, rfl, s₁, _, rfl, hs₁, atEnd, _, rfl, rfl⟩ :=
        hs
      obtain ⟨e', he', hsame⟩ := exists_isExpr_of_relocated he hs₁
      exact ⟨_, .initialized atName atSign atEnd he', by
        simp only [Statement.unlocated, Option.map_some, hsame]⟩
  | .assignment _ _ he => by
      intro hs
      simp only [relocated_cons, relocated_append, relocated_nil] at hs
      obtain ⟨here, _, rfl, atSign, _, rfl, s₁, _, rfl, hs₁, atEnd, _, rfl, rfl⟩ := hs
      obtain ⟨e', he', hsame⟩ := exists_isExpr_of_relocated he hs₁
      exact ⟨_, .assignment atSign atEnd he', by simp only [Statement.unlocated, hsame]⟩
  | .ifThen _ _ he hbody => by
      intro hs
      simp only [relocated_cons, relocated_append] at hs
      obtain ⟨here, _, rfl, opening, _, rfl, s₁, _, rfl, hs₁, closing, u₁, rfl, hu₁⟩ := hs
      obtain ⟨e', he', hsame⟩ := exists_isExpr_of_relocated he hs₁
      obtain ⟨body', hbody', hsameb⟩ := exists_isBlock_of_relocated hbody hu₁
      exact ⟨_, .ifThen opening closing he' hbody', by
        simp only [Statement.unlocated, Statement.allUnlocated_eq_map, hsame, hsameb]⟩
  | .ifElse _ _ he hbody hother => by
      intro hs
      simp only [relocated_cons, relocated_append] at hs
      obtain ⟨here, _, rfl, opening, _, rfl, s₁, _, rfl, hs₁, closing, _, rfl, u₁, _, rfl, hu₁,
        elseHere, v₁, rfl, hv₁⟩ := hs
      obtain ⟨e', he', hsame⟩ := exists_isExpr_of_relocated he hs₁
      obtain ⟨body', hbody', hsameb⟩ := exists_isBlock_of_relocated hbody hu₁
      obtain ⟨other', hother', hsameo⟩ := exists_isBlock_of_relocated hother hv₁
      exact ⟨_, .ifElse opening closing he' hbody' hother', by
        simp only [Statement.unlocated, Statement.allUnlocated_eq_map, hsame, hsameb, hsameo]⟩
  | .whileLoop _ _ he hbody => by
      intro hs
      simp only [relocated_cons, relocated_append] at hs
      obtain ⟨here, _, rfl, opening, _, rfl, s₁, _, rfl, hs₁, closing, u₁, rfl, hu₁⟩ := hs
      obtain ⟨e', he', hsame⟩ := exists_isExpr_of_relocated he hs₁
      obtain ⟨body', hbody', hsameb⟩ := exists_isBlock_of_relocated hbody hu₁
      exact ⟨_, .whileLoop opening closing he' hbody', by
        simp only [Statement.unlocated, Statement.allUnlocated_eq_map, hsame, hsameb]⟩
  | .returnNone _ => by
      intro hs
      simp only [relocated_cons, relocated_nil] at hs
      obtain ⟨here, _, rfl, atEnd, _, rfl, rfl⟩ := hs
      exact ⟨_, .returnNone atEnd, rfl⟩
  | .returnSome _ he => by
      intro hs
      simp only [relocated_cons, relocated_append, relocated_nil] at hs
      obtain ⟨here, _, rfl, s₁, _, rfl, hs₁, atEnd, _, rfl, rfl⟩ := hs
      obtain ⟨e', he', hsame⟩ := exists_isExpr_of_relocated he hs₁
      exact ⟨_, .returnSome atEnd he', by
        simp only [Statement.unlocated, Option.map_some, hsame]⟩

theorem exists_isStatements_of_relocated {depth : Nat} {s s' : Phrase} {ss : List Statement} :
    IsStatements depth s ss → Relocated s s' →
      ∃ ss', IsStatements depth s' ss' ∧
        ss'.map Statement.unlocated = ss.map Statement.unlocated
  | .one h => by
      intro hs
      obtain ⟨st', hst', hsame⟩ := exists_isStatement_of_relocated h hs
      exact ⟨[st'], .one hst', by simp only [List.map_cons, List.map_nil, hsame]⟩
  | .more h hlast => by
      intro hs
      simp only [relocated_append] at hs
      obtain ⟨s₁, u₁, rfl, hs₁, hu₁⟩ := hs
      obtain ⟨ss', hss', hsame⟩ := exists_isStatements_of_relocated h hs₁
      obtain ⟨st', hst', hsamel⟩ := exists_isStatement_of_relocated hlast hu₁
      exact ⟨ss' ++ [st'], .more hss' hst', by
        simp only [List.map_append, List.map_cons, List.map_nil, hsame, hsamel]⟩

theorem exists_isBlock_of_relocated {depth : Nat} {s s' : Phrase} {ss : List Statement} :
    IsBlock depth s ss → Relocated s s' →
      ∃ ss', IsBlock depth s' ss' ∧ ss'.map Statement.unlocated = ss.map Statement.unlocated
  | .braces _ _ h => by
      intro hs
      simp only [relocated_cons, relocated_append, relocated_nil] at hs
      obtain ⟨opening, _, rfl, s₁, _, rfl, hs₁, closing, _, rfl, rfl⟩ := hs
      obtain ⟨ss', hss', hsame⟩ := exists_isStatements_of_relocated h hs₁
      exact ⟨ss', .braces opening closing hss', hsame⟩

end

/-! ### Functions and programs -/

theorem exists_isParam_of_relocated {s s' : Phrase} {p : Param} (h : IsParam s p)
    (hs : Relocated s s') : ∃ p', IsParam s' p' ∧ p'.unlocated = p.unlocated := by
  obtain ⟨⟩ := h
  simp only [relocated_cons, relocated_nil] at hs
  obtain ⟨here, _, rfl, atName, _, rfl, rfl⟩ := hs
  exact ⟨_, .param atName, rfl⟩

theorem exists_isParams_of_relocated {s s' : Phrase} {ps : List Param} (h : IsParams s ps)
    (hs : Relocated s s') :
    ∃ ps', IsParams s' ps' ∧ ps'.map Param.unlocated = ps.map Param.unlocated := by
  induction h generalizing s' with
  | none =>
      simp only [relocated_nil] at hs
      obtain ⟨rfl⟩ := hs
      exact ⟨[], .none, rfl⟩
  | one hp =>
      obtain ⟨p', hp', hsame⟩ := exists_isParam_of_relocated hp hs
      exact ⟨[p'], .one hp', by simp only [List.map_cons, List.map_nil, hsame]⟩
  | more _ _ hne hp ih =>
      simp only [relocated_cons, relocated_append] at hs
      obtain ⟨s₁, _, rfl, hs₁, comma, u₁, rfl, hu₁⟩ := hs
      obtain ⟨ps', hps', hsame⟩ := ih hs₁
      obtain ⟨p', hp', hsamel⟩ := exists_isParam_of_relocated hp hu₁
      have hne' : ps' ≠ [] := by
        rintro rfl
        exact hne (List.map_eq_nil_iff.1 hsame.symm)
      exact ⟨ps' ++ [p'], .more comma hps' hne' hp', by
        simp only [List.map_append, List.map_cons, List.map_nil, hsame, hsamel]⟩

theorem exists_isHeader_of_relocated {s s' : Phrase} {header : Header}
    (h : IsHeader IsParams s header) (hs : Relocated s s') :
    ∃ header', IsHeader IsParams s' header' ∧ header'.signature.name = header.signature.name ∧
      header'.signature.returnType = header.signature.returnType ∧
      header'.params.map Param.unlocated = header.params.map Param.unlocated := by
  obtain @⟨_, _, _, _, _, _, _, _, _, hparams⟩ := h
  simp only [relocated_cons, relocated_append, relocated_nil] at hs
  obtain ⟨here, _, rfl, atName, _, rfl, opening, _, rfl, s₁, _, rfl, hs₁, closing, _, rfl,
    brace, _, rfl, rfl⟩ := hs
  obtain ⟨ps', hps', hsame⟩ := exists_isParams_of_relocated hparams hs₁
  exact ⟨_, .header atName opening closing brace hps', rfl, rfl, hsame⟩

theorem exists_isFunction_of_relocated {s s' : Phrase} {f : Function} (h : IsFunction IsParams s f)
    (hs : Relocated s s') : ∃ f', IsFunction IsParams s' f' ∧ f'.unlocated = f.unlocated := by
  obtain ⟨_, hheader, hbody⟩ := h
  simp only [relocated_cons, relocated_append, relocated_nil] at hs
  obtain ⟨s₁, _, rfl, hs₁, u₁, _, rfl, hu₁, closing, _, rfl, rfl⟩ := hs
  obtain ⟨header', hheader', hname, htype, hparams⟩ := exists_isHeader_of_relocated hheader hs₁
  obtain ⟨body', hbody', hsame⟩ := exists_isStatements_of_relocated hbody hu₁
  exact ⟨_, .function closing hheader' hbody', by
    simp only [Function.unlocated, Header.function, hname, htype, hparams, hsame]⟩

theorem exists_isFunctions_of_relocated {s s' : Phrase} {fs : List Function}
    (h : IsFunctions IsParams s fs) (hs : Relocated s s') :
    ∃ fs', IsFunctions IsParams s' fs' ∧
      fs'.map Function.unlocated = fs.map Function.unlocated := by
  induction h generalizing s' with
  | one hf =>
      obtain ⟨f', hf', hsame⟩ := exists_isFunction_of_relocated hf hs
      exact ⟨[f'], .one hf', by simp only [List.map_cons, List.map_nil, hsame]⟩
  | more _ hf ih =>
      simp only [relocated_append] at hs
      obtain ⟨s₁, u₁, rfl, hs₁, hu₁⟩ := hs
      obtain ⟨fs', hfs', hsame⟩ := ih hs₁
      obtain ⟨f', hf', hsamel⟩ := exists_isFunction_of_relocated hf hu₁
      exact ⟨fs' ++ [f'], .more hfs' hf', by
        simp only [List.map_append, List.map_cons, List.map_nil, hsame, hsamel]⟩

/-- **A `Relocated` sentence is a sentence**, by `IsProgram`, and its tree is the same up to
locations. -/
theorem exists_isProgram_of_relocated {s s' : Phrase} {p : Program} (h : IsProgram s p)
    (hs : Relocated s s') : ∃ q, IsProgram s' q ∧ q.unlocated = p.unlocated := by
  obtain ⟨fs', hfs', hsame⟩ := exists_isFunctions_of_relocated h hs
  exact ⟨⟨fs'⟩, hfs', by simp only [Program.unlocated, hsame]⟩

end Grammar

end SyntaxExplorer
