import SyntaxExplorer.Proofs.Progress.Completeness
import SyntaxExplorer.Proofs.Progress.Soundness

/-!
# SyntaxExplorer.Proofs.Progress.LeadingComma

**The sentences that are not read.** The grammar derives a list of parameters that begins
with a comma (`Grammar.IsParamList`), and no step leads on with that comma. Up to there a
sentence is read like any other one (`run_of_isSentence`), so it is read to its end exactly
if no list in it begins so (`isProgram_iff`). And there every text that is read goes on to
a sentence with the comma (`exists_isSentence_of_run`): the grammar alone would not have
stopped.

In a list of tokens the place is behind an identifier and an opening parenthesis
(`Grammar.OpensParams`), which follow each other in the head of a function only.
-/

namespace SyntaxExplorer

open Grammar

namespace Grammar

/-- The tokens end with the parenthesis that opens a list of parameters, right behind a name. -/
def OpensParams (ts : List Token) : Prop :=
  ∃ front name atName opening,
    ts = front ++ [⟨.identifier name, atName⟩, ⟨.symbol .openParen, opening⟩]

/-- A list of parameters begins with a comma, right behind tokens that `OpensParams` holds of. -/
def HasLeadingComma (ts : List Token) : Prop :=
  ∃ front comma rest, OpensParams front ∧ ts = front ++ ⟨.symbol .comma, comma⟩ :: rest

theorem IsFunctions.mono {lists lists' : Phrase → List Param → Prop} {s : Phrase}
    {fs : List Function} (hlists : ∀ {u ps}, lists u ps → lists' u ps)
    (h : IsFunctions lists s fs) : IsFunctions lists' s fs := by
  have hfunction : ∀ {s f}, IsFunction lists s f → IsFunction lists' s f := by
    rintro s f ⟨closing, ⟨atName, opening, closed, brace, hps⟩, hbody⟩
    exact .function closing (.header atName opening closed brace (hlists hps)) hbody
  induction h with
  | one hf => exact .one (hfunction hf)
  | more _ hf ih => exact .more ih (hfunction hf)

/-- A phrase that is read as a program (`IsProgram`) is a sentence of the grammar
(`IsSentence`). -/
theorem IsProgram.isSentence {s : Phrase} {p : Program} (h : IsProgram s p) : IsSentence s p :=
  IsFunctions.mono (fun hps => (isParams_iff.1 hps).1) h

/-- A function of the grammar (`IsParamList`) is one that is read (`IsParams`), or its list of
parameters begins with a comma. -/
theorem isFunction_or_comma {s : Phrase} {f : Function} (h : IsFunction IsParamList s f) :
    IsFunction IsParams s f ∨
      ∃ u signature comma v, Signature.Reads u signature ∧ s = u ++ sym .comma comma 0 :: v := by
  obtain ⟨closing, ⟨atName, opening, closed, brace, hps⟩, hbody⟩ := h
  rcases isParamList_iff.1 hps with hps | ⟨comma, u, rfl, -, -⟩
  · exact .inl (.function closing (.header atName opening closed brace hps) hbody)
  · exact .inr ⟨_, _, comma, _, .signature atName opening, rfl⟩

/-- Functions of the grammar (`IsParamList`) are functions that are read (`IsParams`), or there
is a first list of parameters among them that begins with a comma. -/
theorem isFunctions_or_comma {s : Phrase} {fs : List Function}
    (h : IsFunctions IsParamList s fs) :
    IsFunctions IsParams s fs ∨ ∃ u before v signature comma w, FunctionsRead u before ∧
      Signature.Reads v signature ∧ s = u ++ (v ++ sym .comma comma 0 :: w) := by
  induction h with
  | one hf =>
      rcases isFunction_or_comma hf with hf | ⟨v, signature, comma, w, hv, rfl⟩
      · exact .inl (.one hf)
      · exact .inr ⟨[], [], v, signature, comma, w, .none, hv, rfl⟩
  | @more s fs u f _ hf ih =>
      rcases ih with hs | ⟨s, before, v, signature, comma, w, hread, hv, rfl⟩
      · rcases isFunction_or_comma hf with hf | ⟨v, signature, comma, w, hv, rfl⟩
        · exact .inl (.more hs hf)
        · have hread : FunctionsRead s fs.reverse := .some (by rwa [List.reverse_reverse])
          exact .inr ⟨s, fs.reverse, v, signature, comma, w, hread, hv, rfl⟩
      · exact .inr ⟨s, before, v, signature, comma, w ++ u, hread, hv, by simp⟩

end Grammar

namespace Progress

variable {limit : Nat} {s v : Phrase} {q : Progress} {signature : Signature} {t : Token}

/-! ### Where a list of parameters begins -/

theorem run_of_signatureReads {before : List Function} (h : Signature.Reads s signature) :
    Run limit ⟨before, .definition⟩ s ⟨before, .firstParam signature⟩ := by
  cases h with
  | @signature name type here atName opening =>
      have htype : step limit ⟨before, .definition⟩ ⟨.keyword type.word, here⟩ =
          .shift ⟨before, .functionName type here⟩ := by
        simp only [step, advance, ofLexeme?_word]
      exact .next htype (.next rfl (.single rfl))

theorem run_of_functionsRead {before : List Function} (h : FunctionsRead s before)
    (hnest : NestsWithin limit s) : Run limit .start s ⟨before, .definition⟩ := by
  cases h with
  | none => exact .done
  | some hs =>
      have hrun : Run limit .start s ⟨before.reverse.reverse ++ [], .definition⟩ :=
        run_of_isFunctions hs hnest
      rwa [List.append_nil, List.reverse_reverse] at hrun

/-- An `IsSentence` is read to its end, or up to a comma that begins a list of parameters, at
`Stage.firstParam`. -/
theorem run_of_isSentence {p : Program} (h : IsSentence v p) (hnest : NestsWithin limit v) :
    IsProgram v p ∨ ∃ s comma u before signature, v = s ++ sym .comma comma 0 :: u ∧
      Run limit .start s ⟨before, .firstParam signature⟩ := by
  rcases isFunctions_or_comma h with h | ⟨s, before, u, signature, comma, w, hs, hu, rfl⟩
  · exact .inl h
  · rw [nestsWithin_append] at hnest
    exact .inr ⟨s ++ u, comma, w, before, signature, (List.append_assoc ..).symm,
      (run_of_functionsRead hs hnest.1).append (run_of_signatureReads hu)⟩

/-- `Progress.step` refuses a comma at `Stage.firstParam`, where it wants a type. -/
theorem step_comma (hq : q.stage = .firstParam signature) (ht : t.lexeme = .symbol .comma) :
    q.step limit t = .reject (.unexpected t.lexeme .type) := by
  obtain ⟨before, stage⟩ := q
  obtain rfl : stage = .firstParam signature := hq
  simp only [step, advance, ht, TypeName.ofLexeme?]

/-- At `Stage.firstParam`, a list of parameters has been opened (`OpensParams`). -/
theorem opensParams_of_run (hrun : Run limit .start s q) (hq : q.stage = .firstParam signature) :
    OpensParams (tokens s) := by
  obtain ⟨before, stage⟩ := q
  obtain rfl : stage = .firstParam signature := hq
  cases reads_run hrun reads_start with
  | @progress s _ _ _ hs hstage =>
      cases hstage with
      | firstParam hsignature =>
          cases hsignature with
          | @signature name type here atName opening =>
              exact ⟨tokens s ++ [⟨.keyword type.word, here⟩], name, atName, opening, by simp⟩

/-- At `Stage.operator` stands neither a name nor an opening parenthesis. -/
theorem not_shift_of_operator {before : List Function} {e : OpenExpr} {read : Expr} {site : Site}
    {here : Location} {lexeme : Lexeme}
    (h : lexeme = .symbol .openParen ∨ ∃ name, lexeme = .identifier name) :
    step limit ⟨before, .operator e read site⟩ ⟨lexeme, here⟩ ≠ .shift q := by
  obtain ⟨purpose, operands, outer⟩ := e
  obtain rfl | ⟨name, rfl⟩ := h <;> cases outer with
  | nil => cases purpose <;> nofun
  | cons => nofun

/-- Behind an identifier a parenthesis opens a list of parameters (`Stage.firstParam`), and
nothing else. -/
theorem exists_firstParam_of_step {p r : Progress} {name : String} {atName opening : Location}
    (h : p.step limit ⟨.identifier name, atName⟩ = .shift q)
    (h' : q.step limit ⟨.symbol .openParen, opening⟩ = .shift r) :
    ∃ signature, r.stage = .firstParam signature := by
  obtain ⟨before, stage⟩ := p
  cases stage with
  | functionName =>
      cases h
      cases h'
      exact ⟨_, rfl⟩
  | factor | returned =>
      cases h
      exact absurd h' (not_shift_of_operator (.inl rfl))
  | operator => exact absurd h (not_shift_of_operator (.inr ⟨name, rfl⟩))
  | blockOpen =>
      simp only [step, advance] at h
      split at h <;> cases h
  | _ =>
      cases h
      all_goals cases h'

theorem exists_firstParam_of_opensParams (hrun : Run limit .start s q)
    (h : OpensParams (tokens s)) : ∃ signature, q.stage = .firstParam signature := by
  obtain ⟨front, name, atName, opening, htokens⟩ := h
  obtain ⟨u, v, rfl, -, hv⟩ := List.map_eq_append_iff.1 htokens
  obtain ⟨p, -, hrest⟩ := hrun.split
  cases hrest with
  | done => simp at hv
  | next hname hrest =>
      cases hrest with
      | done => simp at hv
      | next hopening hrest =>
          cases hrest with
          | next => simp at hv
          | done =>
              simp only [List.map_cons, List.map_nil, List.cons.injEq, and_true] at hv
              obtain ⟨rfl, rfl⟩ := hv
              exact exists_firstParam_of_step hname hopening

/-! ### With and without the comma -/

/-- **What is read (`IsProgram`) are the sentences (`IsSentence`) in which no list of
parameters begins with a comma (`HasLeadingComma`).** -/
theorem isProgram_iff {p : Program} :
    IsProgram v p ↔ IsSentence v p ∧ ¬ HasLeadingComma (tokens v) := by
  obtain ⟨limit, hnest⟩ := exists_nestsWithin v
  constructor
  · refine fun h => ⟨h.isSentence, ?_⟩
    rintro ⟨front, comma, rest, hfront, htokens⟩
    obtain ⟨s, u, rfl, rfl, hu⟩ := List.map_eq_append_iff.1 htokens
    obtain ⟨q, hs, hrest⟩ := (run_of_isProgram h hnest).split
    obtain ⟨signature, hq⟩ := exists_firstParam_of_opensParams hs hfront
    cases hrest with
    | done => simp at hu
    | next hstep =>
        obtain ⟨rfl, -⟩ := List.cons.inj hu
        rw [step_comma hq rfl] at hstep
        cases hstep
  · rintro ⟨h, hcomma⟩
    rcases run_of_isSentence h hnest with h | ⟨s, comma, u, before, signature, rfl, hrun⟩
    · exact h
    · exact absurd ⟨tokens s, comma, tokens u, opensParams_of_run hrun rfl, by simp⟩ hcomma

/-- At `Stage.firstParam`, some sentence (`IsSentence`) goes on with a comma. -/
theorem exists_isSentence_of_run (hrun : Run limit .start s q)
    (hq : q.stage = .firstParam signature) (comma : Location) :
    ∃ u p, IsSentence (s ++ sym .comma comma 0 :: u) p := by
  obtain ⟨before, stage⟩ := q
  obtain rfl : stage = .firstParam signature := hq
  cases reads_run hrun reads_start with
  | @progress s u _ _ hs hstage =>
  cases hstage with
  | firstParam hsignature =>
  -- The list has one parameter and the body one statement.
  have hlist : IsParamList (sym .comma comma 0 ::
      [key TypeName.int.word .start 0, ident "a" .start 0]) [⟨"a", .int, .start⟩] :=
    .more comma .none (.param .start)
  have hheader : IsHeader IsParamList (u ++ (sym .comma comma 0 :: [key TypeName.int.word .start 0,
      ident "a" .start 0] ++ [sym .closeParen .start 0, sym .openBrace .start 0]))
      ⟨signature, [⟨"a", .int, .start⟩]⟩ := by
    cases hsignature with
    | signature atName opening => exact .header atName opening .start .start hlist
  have hbody : IsStatements 0 [key .returnWord .start 0, sym .semicolon .start 0]
      [.returnValue none .start] := .one (.returnNone .start)
  have hfunction := IsFunction.function .start hheader hbody
  cases hs with
  | none => exact ⟨_, ⟨_⟩, by simpa [IsSentence] using IsFunctions.one hfunction⟩
  | some hs =>
      have hs : IsFunctions IsParamList s before.reverse :=
        hs.mono fun hps => (isParams_iff.1 hps).1
      exact ⟨_, ⟨_⟩, by simpa [IsSentence] using IsFunctions.more hs hfunction⟩

end Progress

end SyntaxExplorer
