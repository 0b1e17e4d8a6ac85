import SyntaxExplorer.Proofs.Program.Unparse
import SyntaxExplorer.Proofs.Scanner.Spelling
import SyntaxExplorer.Proofs.Token.Source

/-!
# SyntaxExplorer.Proofs.Scanner.RoundTrip

**Scanning undoes writing down, whatever the layout.** A text of lexemes spells them one
after the other, with layout behind each that begins with a blank (`Writes`). The lexemes
are read again (`tokens_of_writes`): layout in front of a lexeme is not seen, and no
lexeme goes on with a blank.

The plainest text of lexemes has a space behind each and nothing else between them
(`spelled`).
-/

namespace SyntaxExplorer

namespace Cursor

/-- The text writes the lexemes down, one after the other (`Lexeme.Spells`). Behind a lexeme
stands some layout that begins with a blank (`Parted`), unless the text is over. The last
layout may go on with a comment that the end of the text closes (`IsEnding`). -/
inductive Writes : List Lexeme → List Char → Prop
  | nil {ending} : IsEnding ending → Writes [] ending
  | cons {l ls word gap text} : l.Spells word → IsLayout gap → Parted gap →
      (gap = [] → text = []) → Writes ls text → Writes (l :: ls) (word ++ (gap ++ text))

/-- A text that `Writes` lexemes has these tokens, also behind layout. -/
theorem exists_drain_of_writes {ls : List Lexeme} {text lead : List Char} (h : Writes ls text)
    (hlead : IsLayout lead) (here : Location) :
    ∃ ts last, TokenSource.drain (⟨lead ++ text, here⟩ : Cursor) = ⟨ts ++ [last], none⟩ ∧
      ts.map Token.lexeme = ls ∧ last.lexeme = .endOfFile := by
  induction h generalizing lead here with
  | nil hending =>
      have hscan := (scan_layout hlead _ here).trans (scan_ending hending _)
      exact ⟨[], _, TokenSource.drain_of_end hscan rfl, rfl, rfl⟩
  | @cons l ls word gap text hword hgap hparted hover _ ih =>
      have hends : l.EndsBefore (gap ++ text) := by
        refine Parted.endsBefore ?_ hword.ne_endOfFile
        cases gap with
        | nil => simp [Parted, hover rfl]
        | cons => exact hparted
      have hscan := (scan_layout hlead _ here).trans (scan_spells hword hends _)
      have hnot := hword.isEnd_eq_false (here.past lead)
      -- The layout behind the lexeme is in front of the next one.
      obtain ⟨ts, last, hdrain, rfl, hlast⟩ := ih hgap ((here.past lead).past word)
      refine ⟨⟨l, here.past lead⟩ :: ts, last, ?_, rfl, hlast⟩
      rw [TokenSource.drain_of_token hscan hnot, hdrain]
      rfl

/-- **Scanning undoes writing down, whatever the layout.** The `TokenSource.tokens` of a text
that `Writes` lexemes, behind any `IsLayout`, are these lexemes and the end of the text. -/
theorem tokens_of_writes {ls : List Lexeme} {lead text : List Char} (hlead : IsLayout lead)
    (h : Writes ls text) :
    ∃ ts, TokenSource.tokens (ofText (String.ofList (lead ++ text))) = .ok ts ∧
      ts.map Token.lexeme = ls ++ [.endOfFile] := by
  obtain ⟨ts, last, hdrain, hts, hlast⟩ := exists_drain_of_writes h hlead .start
  refine ⟨ts ++ [last], ?_, by simp [hts, hlast]⟩
  rw [TokenSource.tokens, ofText, String.toList_ofList, hdrain]

/-- Comments that hold quotes and stars, a quote and a line feed in a string literal, and
two equals signs that a line feed keeps apart. -/
theorem tokens_of_commented_text :
    ∃ ts, TokenSource.tokens
        (ofText "/***// /*\"*/\"\\\"\n\"\t//*\n=\n007 // the end") = .ok ts ∧
      ts.map Token.lexeme =
        [.symbol .slash, .stringLiteral "\"\n", .symbol .assign, .number 7, .endOfFile] := by
  have hstars : IsLayout "/***/".toList := @IsLayout.block ['*'] [] (by decide) .nil
  have hquote : IsLayout " /*\"*/".toList :=
    .blank (by decide) (@IsLayout.block ['"'] [] (by decide) .nil)
  have hline : IsLayout "\t//*\n".toList :=
    .blank (by decide) (@IsLayout.line ['*'] [] (by decide) .nil)
  have hfeed : IsLayout ['\n'] := isLayout_singleton (by decide)
  have hspace : IsLayout [' '] := isLayout_singleton (by decide)
  have hend : IsEnding "// the end".toList := .inr ⟨" the end".toList, by decide, by decide⟩
  have hcontents : SpellsContents "\"\n".toList "\\\"\n".toList :=
    .cons .quote (.cons (.itself (by decide) (by decide)) .nil)
  have hseven : (Lexeme.number 7).Spells "007".toList :=
    @Lexeme.Spells.number "007".toList (by decide) (List.all_eq_true.1 (by decide)) (by decide)
  have htext : "/***// /*\"*/\"\\\"\n\"\t//*\n=\n007 // the end" = String.ofList ("/***/".toList ++
      (Symbol.slash.spelling.toList ++ (" /*\"*/".toList ++
        ('"' :: ("\\\"\n".toList ++ ['"']) ++ ("\t//*\n".toList ++
          (Symbol.assign.spelling.toList ++ (['\n'] ++
            ("007".toList ++ ([' '] ++ "// the end".toList))))))))) := by
    decide +kernel
  rw [htext]
  exact tokens_of_writes hstars (.cons (.symbol .slash) hquote (by decide) (by decide)
    (.cons (.stringLiteral hcontents) hline (by decide) (by decide)
      (.cons (.symbol .assign) hfeed (by decide) (by decide)
        (.cons hseven hspace (by decide) (by decide) (.nil hend)))))

/-! ### The plainest text -/

theorem spellsContents_escaped (cs : List Char) : SpellsContents cs (cs.flatMap escaped) := by
  induction cs with
  | nil => exact .nil
  | cons c cs ih =>
      rw [List.flatMap_cons]
      refine .cons ?_ ih
      unfold escaped
      split
      · rename_i hc
        rw [Bool.or_eq_true, decide_eq_true_iff, decide_eq_true_iff] at hc
        rcases hc with rfl | rfl
        · exact .quote
        · exact .backslash
      · simp_all [SpellsChar.itself]

/-- `Lexeme.spelling` is one of the spellings of a lexeme (`Spells`). -/
theorem spells_spelling {l : Lexeme} (hl : l.WellFormed) (hend : l ≠ .endOfFile) :
    l.Spells l.spelling.toList := by
  cases l with
  | number value =>
      obtain ⟨v, hv, rfl⟩ := hl
      have hvalue : Nat.ofDigitChars 10 (toString v).toList 0 = v := by simp
      have hspells := Lexeme.Spells.number (by simp [Nat.toDigits_ne_nil])
        (fun c hc => isDigit_of_mem_toString hc) (hvalue.symm ▸ hv)
      rwa [hvalue] at hspells
  | identifier name => exact .identifier hl
  | stringLiteral contents =>
      rw [Lexeme.spelling, String.toList_ofList]
      exact .stringLiteral (spellsContents_escaped contents.toList)
  | keyword k => exact .keyword k
  | symbol s => exact .symbol s
  | endOfFile => exact absurd rfl hend

/-- The `Lexeme.spelling` of some lexemes, with a space behind each. -/
def spelled (ls : List Lexeme) : List Char := ls.flatMap fun l => l.spelling.toList ++ [' ']

theorem writes_spelled {ls : List Lexeme} (h : ∀ l ∈ ls, l.WellFormed ∧ l ≠ .endOfFile) :
    Writes ls (spelled ls) := by
  induction ls with
  | nil => exact .nil (.inl rfl)
  | cons l ls ih =>
      rw [List.forall_mem_cons] at h
      have hwrites := Writes.cons (spells_spelling h.1.1 h.1.2)
        (@isLayout_singleton ' ' (by decide)) (by decide) (by simp) (ih h.2)
      simpa [spelled] using hwrites

/-- **The tokens of `spelled` lexemes are these lexemes.** -/
theorem exists_drain_spelled (ls : List Lexeme) (h : ∀ l ∈ ls, l.WellFormed ∧ l ≠ .endOfFile)
    (here : Location) :
    ∃ ts last, TokenSource.drain (⟨spelled ls, here⟩ : Cursor) = ⟨ts ++ [last], none⟩ ∧
      ts.map Token.lexeme = ls ∧ last.isEnd = true := by
  obtain ⟨ts, last, hdrain, hts, hlast⟩ :=
    exists_drain_of_writes (writes_spelled h) .nil here
  exact ⟨ts, last, hdrain, hts, by rw [Token.isEnd, hlast]⟩

end Cursor

end SyntaxExplorer
