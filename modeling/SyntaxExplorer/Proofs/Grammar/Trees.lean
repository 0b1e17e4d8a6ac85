import SyntaxExplorer.Proofs.Program.Unparse

/-!
# SyntaxExplorer.Proofs.Grammar.Trees

**The trees of sentences.** A sentence has no empty list of functions or statements,
so its tree is well formed exactly if its lexemes are (`wellFormed_iff_of_isProgram`).
And of all sentences with one tree, the phrase of the tree nests least deeply: it
puts parentheses around an operand only where every sentence has some
(`nestsWithin_phrase_of_isProgram`).
-/

namespace SyntaxExplorer

namespace Grammar

/-! ### Well-formed trees -/

/-- All lexemes of the phrase are `Lexeme.WellFormed`. -/
def LexemesWellFormed (s : Phrase) : Prop := ∀ x ∈ s, x.token.lexeme.WellFormed

@[simp] theorem lexemesWellFormed_nil : LexemesWellFormed [] := by
  simp [LexemesWellFormed]

@[simp] theorem lexemesWellFormed_cons (x : Placed) (s : Phrase) :
    LexemesWellFormed (x :: s) ↔ x.token.lexeme.WellFormed ∧ LexemesWellFormed s := by
  simp [LexemesWellFormed]

@[simp] theorem lexemesWellFormed_append (s u : Phrase) :
    LexemesWellFormed (s ++ u) ↔ LexemesWellFormed s ∧ LexemesWellFormed u := by
  simp [LexemesWellFormed, or_imp, forall_and]

attribute [local simp] Lexeme.WellFormed

theorem isNumeral_toString_iff (value : Int) :
    IsNumeral (toString value) ↔ (Lexeme.number value).WellFormed := by
  constructor
  · rintro ⟨v, hv, htext⟩
    have hchars := congrArg String.toList htext
    cases value with
    | ofNat n =>
        have hvalue : Nat.ofDigitChars 10 (toString n).toList 0 =
            Nat.ofDigitChars 10 (toString v).toList 0 :=
          congrArg (fun cs => Nat.ofDigitChars 10 cs 0) hchars
        obtain rfl : n = v := by simpa using hvalue
        exact ⟨n, hv, rfl⟩
    | negSucc n =>
        -- A negative number is written with a sign, which is no digit.
        have hsign : '-' ∈ (toString v).toList := by
          rw [← hchars]
          show '-' ∈ ("-" ++ (n + 1).repr).toList
          simp
        cases isDigit_of_mem_toString hsign
  · rintro ⟨v, hv, rfl⟩
    exact ⟨v, hv, rfl⟩

theorem wellFormed_iff_of_isExpr {layer : Layer} {depth : Nat} {s : Phrase} {e : Expr}
    (h : IsExpr layer depth s e) : e.WellFormed ↔ LexemesWellFormed s := by
  induction h with
  | ofTerm _ ih => exact ih
  | ofFactor _ ih => exact ih
  | sum _ _ _ ihl ihr => simp [Expr.WellFormed, ihl, ihr]
  | product _ _ _ ihl ihr => simp [Expr.WellFormed, ihl, ihr]
  | number =>
      rw [Expr.ofValue, Expr.WellFormed, isNumeral_toString_iff]
      simp
  | id => simp [Expr.WellFormed]
  | parens _ _ _ ih => simp [ih]

theorem IsStatements.ne_nil {depth : Nat} {s : Phrase} {ss : List Statement}
    (h : IsStatements depth s ss) : ss ≠ [] := by
  cases h <;> simp

mutual

theorem wellFormed_iff_of_isStatement {depth : Nat} {s : Phrase} {st : Statement} :
    IsStatement depth s st → (st.WellFormed ↔ LexemesWellFormed s)
  | .declaration _ _ => by simp [Statement.WellFormed]
  | .initialized _ _ _ he => by simp [Statement.WellFormed, wellFormed_iff_of_isExpr he]
  | .assignment _ _ he => by simp [Statement.WellFormed, wellFormed_iff_of_isExpr he]
  | .ifThen _ _ he hbody => by
      have hblock := wellFormed_iff_of_isBlock hbody
      simp [Statement.WellFormed, wellFormed_iff_of_isExpr he, hblock]
  | .ifElse _ _ he hbody hother => by
      have hthen := wellFormed_iff_of_isBlock hbody
      have helse := wellFormed_iff_of_isBlock hother
      simp [Statement.WellFormed, wellFormed_iff_of_isExpr he, hthen, helse]
  | .whileLoop _ _ he hbody => by
      have hblock := wellFormed_iff_of_isBlock hbody
      simp [Statement.WellFormed, wellFormed_iff_of_isExpr he, hblock]
  | .returnNone _ => by simp [Statement.WellFormed]
  | .returnSome _ he => by simp [Statement.WellFormed, wellFormed_iff_of_isExpr he]

theorem wellFormed_iff_of_isStatements {depth : Nat} {s : Phrase} {ss : List Statement} :
    IsStatements depth s ss → ((∀ st ∈ ss, st.WellFormed) ↔ LexemesWellFormed s)
  | .one h => by simpa using wellFormed_iff_of_isStatement h
  | .more hs h => by
      rw [List.forall_mem_append, List.forall_mem_singleton, lexemesWellFormed_append,
        wellFormed_iff_of_isStatements hs, wellFormed_iff_of_isStatement h]

theorem wellFormed_iff_of_isBlock {depth : Nat} {s : Phrase} {ss : List Statement} :
    IsBlock depth s ss → (ss ≠ [] ∧ Statement.AllWellFormed ss ↔ LexemesWellFormed s)
  | .braces _ _ hs => by
      simp [Statement.allWellFormed_iff, hs.ne_nil, wellFormed_iff_of_isStatements hs]

end

theorem wellFormed_iff_of_isParams {s : Phrase} {ps : List Param} (h : IsParams s ps) :
    (∀ p ∈ ps, IsName p.name) ↔ LexemesWellFormed s := by
  have hparam : ∀ {u p}, IsParam u p → (IsName p.name ↔ LexemesWellFormed u) := by
    rintro u p ⟨⟩
    simp
  induction h with
  | none => simp
  | one hp => simpa using hparam hp
  | more comma _ _ hp ih => simp [or_imp, forall_and, ih, hparam hp]

theorem wellFormed_iff_of_isFunction {s : Phrase} {f : Function} (h : IsFunction IsParams s f) :
    f.WellFormed ↔ LexemesWellFormed s := by
  obtain ⟨_, hheader, hbody⟩ := h
  obtain @⟨_, _, _, _, _, _, _, _, _, hparams⟩ := hheader
  simp [Function.WellFormed, Header.function, hbody.ne_nil, wellFormed_iff_of_isParams hparams,
    wellFormed_iff_of_isStatements hbody]

/-- **The tree of a sentence is `WellFormed` exactly if its lexemes are**, that is, the phrase
has `LexemesWellFormed`. -/
theorem wellFormed_iff_of_isProgram {s : Phrase} {p : Program} (h : IsProgram s p) :
    p.WellFormed ↔ LexemesWellFormed s := by
  have hfunctions : ∀ {u fs}, IsFunctions IsParams u fs →
      ((∀ f ∈ fs, f.WellFormed) ↔ LexemesWellFormed u) := by
    intro u fs hfs
    induction hfs with
    | one hf => simpa using wellFormed_iff_of_isFunction hf
    | more _ hf ih =>
        rw [List.forall_mem_append, List.forall_mem_singleton, lexemesWellFormed_append, ih,
          wellFormed_iff_of_isFunction hf]
  rw [Program.WellFormed, hfunctions h]
  exact and_iff_right h.ne_nil

/-! ### Parentheses -/

/-- How tightly a layer binds. -/
def Layer.rank : Layer → Nat
  | expression => 0
  | term => 1
  | factor => 2

variable {limit : Nat}

/-- Where `IsExpr` derives an expression from a layer, its `phrase` is `bracketed` for no layer
that binds as loosely, unless parentheses stand there. -/
theorem nestsWithin_bracketed {layer layer' : Layer} {depth depth' : Nat} {s : Phrase} {e : Expr}
    (h : IsExpr layer depth s e) (hs : NestsWithin limit s) (hlayer : layer'.rank ≤ layer.rank)
    (hdepth : depth' ≤ depth) :
    NestsWithin limit (bracketed (!e.fits layer') e.phrase depth') := by
  induction h generalizing layer' depth' with
  | ofTerm _ ih => exact ih hs (Nat.le_trans hlayer (Nat.zero_le _)) hdepth
  | ofFactor _ ih => exact ih hs (Nat.le_succ_of_le hlayer) hdepth
  | @sum depth s u op left right here hop _ _ ihl ihr =>
      -- A sum stands for a whole expression only.
      obtain rfl : layer' = .expression := by
        cases layer' <;> simp [Layer.rank] at hlayer ⊢
      simp only [nestsWithin_append, nestsWithin_cons] at hs
      show NestsWithin limit ((Expr.binary op left right here).phrase depth')
      rw [Expr.phrase_sum hop, nestsWithin_append, nestsWithin_cons]
      exact ⟨ihl hs.1 (Nat.le_refl _) hdepth, Nat.le_trans hdepth hs.2.1,
        ihr hs.2.2 (Nat.le_refl _) hdepth⟩
  | @product depth s u op left right here hop _ _ ihl ihr =>
      have hfits : (Expr.binary op left right here).fits layer' = true := by
        cases layer' <;> simp [Layer.rank, Expr.fits, Expr.isSum, hop] at hlayer ⊢
      simp only [nestsWithin_append, nestsWithin_cons] at hs
      rw [hfits]
      show NestsWithin limit ((Expr.binary op left right here).phrase depth')
      rw [Expr.phrase_product hop, nestsWithin_append, nestsWithin_cons]
      exact ⟨ihl hs.1 (Nat.le_refl _) hdepth, Nat.le_trans hdepth hs.2.1,
        ihr hs.2.2 (Nat.le_refl _) hdepth⟩
  | number =>
      have hle := Nat.le_trans hdepth (hs _ List.mem_cons_self)
      cases layer' <;> simpa [Expr.ofValue, Expr.fits, Expr.isSum, Expr.isBinary, bracketed,
        Expr.phrase] using hle
  | id =>
      have hle := Nat.le_trans hdepth (hs _ List.mem_cons_self)
      cases layer' <;> simpa [Expr.fits, Expr.isSum, Expr.isBinary, bracketed, Expr.phrase]
        using hle
  | @parens depth s e opening closing _ ih =>
      simp only [List.cons_append, nestsWithin_cons, nestsWithin_append, nestsWithin_nil,
        and_true] at hs
      have hinner : ∀ d ≤ depth + 1, NestsWithin limit (e.phrase d) := fun d hd =>
        @ih .expression d hs.2.1 (Nat.le_refl _) hd
      -- The phrase of the tree has these parentheses or none, but not others.
      cases hfits : e.fits layer' with
      | true => exact hinner depth' (Nat.le_succ_of_le hdepth)
      | false =>
          have hopen : depth' ≤ limit := Nat.le_trans hdepth hs.1
          have hclose : depth' + 1 ≤ limit := Nat.le_trans (Nat.succ_le_succ hdepth) hs.2.2
          simpa [bracketed, hopen, hclose] using hinner (depth' + 1) (Nat.succ_le_succ hdepth)

theorem nestsWithin_phrase_of_isExpr {depth : Nat} {s : Phrase} {e : Expr}
    (h : IsExpr .expression depth s e) (hs : NestsWithin limit s) :
    NestsWithin limit (e.phrase depth) :=
  @nestsWithin_bracketed limit .expression .expression depth depth s e h hs (Nat.le_refl _)
    (Nat.le_refl _)

mutual

theorem nestsWithin_phrase_of_isStatement {depth : Nat} {s : Phrase} {st : Statement} :
    IsStatement depth s st → NestsWithin limit s → NestsWithin limit (st.phrase depth)
  | .declaration _ _ => by
      intro hs
      simpa [Statement.phrase] using hs
  | .initialized _ _ _ he => by
      intro hs
      simp only [nestsWithin_cons, nestsWithin_append] at hs
      have hexpr := nestsWithin_phrase_of_isExpr he hs.2.2.2.1
      simpa [Statement.phrase, hexpr] using hs.1
  | .assignment _ _ he => by
      intro hs
      simp only [nestsWithin_cons, nestsWithin_append] at hs
      have hexpr := nestsWithin_phrase_of_isExpr he hs.2.2.1
      simpa [Statement.phrase, hexpr] using hs.1
  | .ifThen _ _ he hbody => by
      intro hs
      simp only [nestsWithin_cons, nestsWithin_append] at hs
      have hexpr := nestsWithin_phrase_of_isExpr he hs.2.2.1
      have hblock := nestsWithin_phrase_of_isBlock hbody hs.2.2.2.2
      simpa [Statement.phrase, hexpr, hblock] using hs.1
  | .ifElse _ _ he hbody hother => by
      intro hs
      simp only [nestsWithin_cons, nestsWithin_append] at hs
      have hexpr := nestsWithin_phrase_of_isExpr he hs.2.2.1
      have hthen := nestsWithin_phrase_of_isBlock hbody hs.2.2.2.2.1
      have helse := nestsWithin_phrase_of_isBlock hother hs.2.2.2.2.2.2
      simpa [Statement.phrase, hexpr, hthen, helse] using hs.1
  | .whileLoop _ _ he hbody => by
      intro hs
      simp only [nestsWithin_cons, nestsWithin_append] at hs
      have hexpr := nestsWithin_phrase_of_isExpr he hs.2.2.1
      have hblock := nestsWithin_phrase_of_isBlock hbody hs.2.2.2.2
      simpa [Statement.phrase, hexpr, hblock] using hs.1
  | .returnNone _ => by
      intro hs
      simpa [Statement.phrase] using hs
  | .returnSome _ he => by
      intro hs
      simp only [nestsWithin_cons, nestsWithin_append] at hs
      have hexpr := nestsWithin_phrase_of_isExpr he hs.2.1
      simpa [Statement.phrase, hexpr] using hs.1

theorem nestsWithin_phrases_of_isStatements {depth : Nat} {s : Phrase} {ss : List Statement} :
    IsStatements depth s ss → NestsWithin limit s →
      NestsWithin limit (Statement.phrases ss depth)
  | .one h => by
      intro hs
      simpa [Statement.phrases] using nestsWithin_phrase_of_isStatement h hs
  | .more h hlast => by
      intro hs
      rw [nestsWithin_append] at hs
      have hfront := nestsWithin_phrases_of_isStatements h hs.1
      rw [Statement.phrases_eq_flatMap] at hfront ⊢
      rw [List.flatMap_append, List.flatMap_singleton, nestsWithin_append]
      exact ⟨hfront, nestsWithin_phrase_of_isStatement hlast hs.2⟩

theorem nestsWithin_phrase_of_isBlock {depth : Nat} {s : Phrase} {ss : List Statement} :
    IsBlock depth s ss → NestsWithin limit s →
      NestsWithin limit (blockPhrase (Statement.phrases ss) depth)
  | .braces _ _ h => by
      intro hs
      simp only [nestsWithin_cons, nestsWithin_append] at hs
      have hinner := nestsWithin_phrases_of_isStatements h hs.2.1
      simpa [blockPhrase, hinner, hs.1] using hs.2.2.1

end

theorem depth_eq_zero_of_mem_phrases {ps : List Param} {x : Placed} (h : x ∈ Param.phrases ps) :
    x.depth = 0 := by
  cases ps with
  | nil => simp [Param.phrases] at h
  | cons p ps =>
      simp only [Param.phrases, Param.phrase, List.mem_append, List.mem_flatMap, List.mem_cons] at h
      grind

theorem nestsWithin_phrase_of_isFunction {s : Phrase} {f : Function} (h : IsFunction IsParams s f)
    (hs : NestsWithin limit s) : NestsWithin limit f.phrase := by
  obtain ⟨_, hheader, hbody⟩ := h
  simp only [nestsWithin_append] at hs
  have hstatements := nestsWithin_phrases_of_isStatements hbody hs.2.1
  have hparams : ∀ ps, NestsWithin limit (Param.phrases ps) := by
    intro ps x hx
    exact Nat.le_trans (Nat.le_of_eq (depth_eq_zero_of_mem_phrases hx)) (Nat.zero_le _)
  simpa [Function.phrase, Header.phrase, Header.function, hparams] using hstatements

/-- **No sentence nests less deeply than the `phrase` of its tree**: where it `NestsWithin` a
limit, so does the `phrase`. -/
theorem nestsWithin_phrase_of_isProgram {s : Phrase} {p : Program} (h : IsProgram s p)
    (hs : NestsWithin limit s) : NestsWithin limit p.phrase := by
  have hfunctions : ∀ {u fs}, IsFunctions IsParams u fs → NestsWithin limit u →
      NestsWithin limit (fs.flatMap Function.phrase) := by
    intro u fs hfs hu
    induction hfs with
    | one hf => simpa using nestsWithin_phrase_of_isFunction hf hu
    | more _ hf ih =>
        rw [nestsWithin_append] at hu
        rw [List.flatMap_append, List.flatMap_singleton, nestsWithin_append]
        exact ⟨ih hu.1, nestsWithin_phrase_of_isFunction hf hu.2⟩
  exact hfunctions h hs

end Grammar

end SyntaxExplorer
