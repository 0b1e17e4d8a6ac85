import SyntaxExplorer.Proofs.Grammar.Relocation
import SyntaxExplorer.Proofs.Grammar.Trees
import SyntaxExplorer.Proofs.Parser.Scanning
import SyntaxExplorer.Proofs.Scanner.RoundTrip
import SyntaxExplorer.Proofs.Scanner.Tokens

/-!
# SyntaxExplorer.Proofs.Parser.RoundTrip

**Parsing undoes writing down**, and the trees that texts have are those that can
be written down (`parse_unparse`). A well-formed tree is the tree of its phrase,
scanning the text of the phrase finds the same lexemes at locations of their own,
and the grammar does not look at these. In the other direction the text has well
formed lexemes only, and the phrase of a tree nests least deeply of all.
-/

namespace SyntaxExplorer

open Grammar

theorem Program.toList_unparse (p : Program) :
    p.unparse.toList = Cursor.spelled ((tokens p.phrase).map Token.lexeme) := by
  rw [Program.unparse, String.toList_join, Cursor.spelled, List.flatMap_map, List.flatMap_map]
  simp

/-- No token in the `phrase` of a `WellFormed` tree `isEnd`. -/
theorem Program.isEnd_eq_false_of_mem_phrase {p : Program} (h : p.WellFormed) :
    ∀ t ∈ tokens p.phrase, t.isEnd = false := by
  obtain ⟨limit, hlimit⟩ := exists_nestsWithin p.phrase
  exact (Progress.run_of_isProgram (isProgram_phrase h) hlimit).isEnd_eq_false

/-- `parse` reads again what `unparse` writes down. -/
theorem exists_parse_unparse {p : Program} (h : p.WellFormed)
    (hnest : NestsWithin maxNesting p.phrase) :
    ∃ q, (parse (Cursor.ofText p.unparse)).1 = .ok q ∧ q.unlocated = p.unlocated := by
  have hphrase := isProgram_phrase h
  have hlexemes : ∀ l ∈ (tokens p.phrase).map Token.lexeme, l.WellFormed ∧ l ≠ .endOfFile := by
    intro l hl
    obtain ⟨t, ht, rfl⟩ := List.mem_map.1 hl
    have hend := Program.isEnd_eq_false_of_mem_phrase h t ht
    obtain ⟨x, hx, rfl⟩ := List.mem_map.1 ht
    refine ⟨(wellFormed_iff_of_isProgram hphrase).1 h x hx, ?_⟩
    intro heq
    simp [Token.isEnd, heq] at hend
  obtain ⟨ts, last, hdrain, hts, hlast⟩ := Cursor.exists_drain_spelled _ hlexemes .start
  rw [← Program.toList_unparse] at hdrain
  -- The scanned tokens are those of the phrase, each at the place where it was read.
  obtain ⟨s, rfl, hs⟩ := exists_relocated hts
  obtain ⟨q, hq, hsame⟩ := exists_isProgram_of_relocated hphrase hs
  exact ⟨q, parse_eq_ok_iff_drain.2 ⟨s, last, hdrain, hlast, hq, hs.nestsWithin hnest⟩, hsame⟩

/-- Scanning finds `WellFormed` lexemes only. -/
theorem lexemesWellFormed_of_drain {text : String} {s : Phrase} {rest : List Token}
    {error : Option ScanError}
    (h : TokenSource.drain (Cursor.ofText text) = ⟨tokens s ++ rest, error⟩) :
    LexemesWellFormed s := by
  intro x hx
  have hmem : x.token ∈ (TokenSource.drain (Cursor.ofText text)).tokens := by
    rw [h]
    exact List.mem_append_left _ (List.mem_map_of_mem hx)
  exact (Cursor.forall_mem_drain (Cursor.behind_ofText text) x.token hmem).2

/-- A tree that `parse` reads is `WellFormed`, and its `phrase` keeps within the limit. -/
theorem wellFormed_of_parse {text : String} {q : Program}
    (h : (parse (Cursor.ofText text)).1 = .ok q) :
    q.WellFormed ∧ NestsWithin maxNesting q.phrase := by
  obtain ⟨s, last, hdrain, -, hq, hnest⟩ := parse_eq_ok_iff_drain.1 h
  exact ⟨(wellFormed_iff_of_isProgram hq).2 (lexemesWellFormed_of_drain hdrain),
    nestsWithin_phrase_of_isProgram hq hnest⟩

/-- **Parsing undoes writing down.** Every `WellFormed` program whose `phrase` keeps within the
limit on nesting is read again from its text `unparse`, up to locations. And every program that
`parse` reads from a text is `WellFormed`, and keeps within the limit when it is written down
with as few parentheses as possible. -/
theorem parse_unparse :
    (∀ p : Program, p.WellFormed → NestsWithin maxNesting p.phrase →
      ∃ q, (parse (Cursor.ofText p.unparse)).1 = .ok q ∧ q.unlocated = p.unlocated) ∧
    ∀ text q, (parse (Cursor.ofText text)).1 = .ok q →
      q.WellFormed ∧ NestsWithin maxNesting q.phrase :=
  ⟨fun _ => exists_parse_unparse, fun _ _ => wellFormed_of_parse⟩

/-- `int f() { return (a - 1) * b; }`, with all parts at one place. -/
def productOfDifference : Program :=
  ⟨[⟨"f", .int, [],
    [.returnValue (some (.binary .mul (.binary .sub (.id "a" .start) (.number "1" .start) .start)
      (.id "b" .start) .start)) .start], .start⟩]⟩

/-- The difference is read again as the left operand of the product. -/
theorem parse_unparse_productOfDifference :
    productOfDifference.unparse = "int f ( ) \x7b return ( a - 1 ) * b ; \x7d " ∧
      ∃ q, (parse (Cursor.ofText productOfDifference.unparse)).1 = .ok q ∧
        q.unlocated = productOfDifference.unlocated ∧
        q.WellFormed ∧ NestsWithin maxNesting q.phrase := by
  obtain ⟨q, hparse, hsame⟩ := parse_unparse.1 productOfDifference (by decide) (by decide)
  exact ⟨by decide +kernel, q, hparse, hsame, parse_unparse.2 _ q hparse⟩

end SyntaxExplorer
