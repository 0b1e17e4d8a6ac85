import Mathlib.Data.List.Chain
import SyntaxExplorer.Proofs.Scanner.Spelling
import SyntaxExplorer.Proofs.Text.Readback
import SyntaxExplorer.Proofs.Token.Source

/-!
# SyntaxExplorer.Proofs.Scanner.Tokens

**Where the tokens of a text stand.** A token is located behind the layout in front
of it, and there the text goes on with its lexeme (`Token.In`). Each token is behind
the ones before it (`pairwise_before_drain`), and no word or number begins inside a
word, unless it stands behind a number (`isChain_drain`).
-/

namespace SyntaxExplorer

/-! ### What a token is read from -/

/-- The text begins with the lexeme. Words and numbers go on as far as they can. -/
def Lexeme.Heads : Lexeme → List Char → Prop
  | number value, cs =>
    cs.takeWhile Char.isDigit ≠ [] ∧ value = Nat.ofDigitChars 10 (cs.takeWhile Char.isDigit) 0
  | identifier name, cs => cs.takeWhile isWordPart = name.toList
  | stringLiteral _, cs => cs.head? = some '"'
  | keyword k, cs => cs.takeWhile isWordPart = k.spelling.toList
  | symbol s, cs => s.spelling.toList <+: cs
  | endOfFile, cs => cs = []

namespace Cursor

variable {l : Lexeme} {word rest : List Char}

theorem isWordPart_of_isName {name : String} (h : IsName name) :
    ∀ c ∈ name.toList, isWordPart c = true := by
  obtain ⟨⟨d, ds, hname, hd, hds⟩, -⟩ := h
  rw [hname, List.forall_mem_cons]
  exact ⟨isWordPart_of_isWordStart hd, hds⟩

/-- Where a spelling is over (`EndsBefore`), the text begins with its lexeme (`Heads`). -/
theorem heads_of_spells (h : l.Spells word) (hrest : l.EndsBefore rest) :
    l.Heads (word ++ rest) := by
  cases h with
  | number hne hdigits =>
      have hrun : (word ++ rest).takeWhile Char.isDigit = word :=
        Text.takeWhile_run hdigits fun c hc => Bool.eq_false_iff.2 (hrest c hc)
      show (word ++ rest).takeWhile Char.isDigit ≠ [] ∧ _
      rw [hrun]
      exact ⟨hne, rfl⟩
  | identifier hname =>
      exact Text.takeWhile_run (isWordPart_of_isName hname) fun c hc =>
        Bool.eq_false_iff.2 (hrest c hc)
  | stringLiteral => rfl
  | keyword k =>
      have hparts : (k.spelling.toList.all isWordPart) = true := by
        cases k <;> decide
      exact Text.takeWhile_run (List.all_eq_true.1 hparts) fun c hc =>
        Bool.eq_false_iff.2 (hrest c hc)
  | symbol s => exact List.prefix_append ..

theorem wellFormed_of_spells (h : l.Spells word) : l.WellFormed := by
  cases h with
  | number _ _ hvalue => exact ⟨_, hvalue, rfl⟩
  | identifier hname => exact hname
  | stringLiteral | keyword | symbol => trivial

/-- Where a spelling is over (`EndsBefore`), no word goes on (`Apart`), unless it is that of a
number. -/
theorem apart_of_spells (h : l.Spells word) (hrest : l.EndsBefore rest)
    (hnumber : ∀ v, l ≠ .number v) : Apart word rest := by
  cases h with
  | number => exact absurd rfl (hnumber _)
  | identifier | keyword => exact .inr fun c hc => Bool.eq_false_iff.2 (hrest c hc)
  | @stringLiteral _ body =>
      have hquote : EndsApart ['"'] := endsApart_singleton (by decide)
      exact .inl (hquote.append ('"' :: body))
  | symbol s => exact .inl (endsApart_spelling s)

/-- `IsLayout` does not end with a part of a word. -/
theorem IsLayout.endsApart {cs : List Char} (h : IsLayout cs) : cs = [] ∨ EndsApart cs := by
  have hbehind : ∀ {front cs : List Char}, EndsApart front → cs = [] ∨ EndsApart cs →
      EndsApart (front ++ cs) := by
    rintro front cs hfront (rfl | hcs)
    · rwa [List.append_nil]
    · exact hcs.append front
  induction h with
  | nil => exact .inl rfl
  | @blank c cs hc _ ih =>
      have hend : EndsApart [c] := endsApart_singleton (isWordPart_of_isBlank hc)
      exact .inr (hbehind hend ih)
  | @line body cs _ _ ih =>
      have hend : EndsApart ['\n'] := endsApart_singleton (by decide)
      have hline := hbehind (hend.append ('/' :: '/' :: body)) ih
      exact .inr (by simpa using hline)
  | @block body cs _ _ ih =>
      have hend : EndsApart ['/'] := endsApart_singleton (by decide)
      have hblock := hbehind (hend.append ('/' :: '*' :: (body ++ ['*']))) ih
      exact .inr (by simpa using hblock)

/-- `Cursor.scan` moves over some layout (`Skips`) and then over the token, which is not empty. -/
theorem scan_spec {c c' : Cursor} {t : Token} (h : c.scan = (.ok t, c')) :
    ∃ b chars, c.Skips b ∧ b.Moves chars c' ∧ (t.isEnd = false → chars ≠ []) ∧
      ((∀ v, t.lexeme ≠ .number v) → Apart chars c'.rest) ∧
      t.location = b.location ∧ t.lexeme.Heads b.rest ∧ t.lexeme.WellFormed := by
  rcases scan_cases h with ⟨lead, word, hlead, hspells, hends, hmoves, hlocation⟩ |
    ⟨lead, ending, -, -, hmoves, hrest, rfl⟩
  · -- Between the layout and the word stands the cursor that the token is read at.
    let b : Cursor := ⟨word ++ c'.rest, c.location.past lead⟩
    have hskips : c.Moves lead b := ⟨hmoves.rest_eq.trans (List.append_assoc ..), rfl⟩
    have hword : b.Moves word c' :=
      ⟨rfl, hmoves.location_eq.trans (Location.past_append ..)⟩
    exact ⟨b, word, ⟨lead, hskips, hlead.endsApart.imp_right .inr⟩, hword,
      fun _ => hspells.ne_nil, apart_of_spells hspells hends, hlocation,
      heads_of_spells hspells hends, wellFormed_of_spells hspells⟩
  · refine ⟨c', [], ⟨_, hmoves, .inr (.inl hrest)⟩, .refl c', ?_, ?_, rfl, hrest, trivial⟩
    · intro hnot
      cases hnot
    · intro _
      exact .inr (by simp [hrest])

end Cursor

/-! ### The tokens of a text -/

namespace Cursor

/-- The cursor stands in the text behind `pre`, at the location of what follows. -/
def Behind (text pre : List Char) (c : Cursor) : Prop :=
  text = pre ++ c.rest ∧ c.location = Location.start.past pre

theorem behind_ofText (text : String) : (ofText text).Behind text.toList [] := ⟨rfl, rfl⟩

theorem Behind.moves {text pre cs : List Char} {c c' : Cursor} (h : c.Behind text pre)
    (hmoves : c.Moves cs c') : c'.Behind text (pre ++ cs) := by
  refine ⟨?_, ?_⟩
  · rw [h.1, hmoves.rest_eq, List.append_assoc]
  · rw [hmoves.location_eq, h.2, Location.past_append]

end Cursor

/-- A number or a word. -/
def Lexeme.isWord : Lexeme → Bool
  | number _ => true
  | identifier _ => true
  | keyword _ => true
  | _ => false

namespace Token

/-- The token stands in the text behind `pre`: there the text goes on with its lexeme. -/
def Behind (text pre : List Char) (t : Token) : Prop :=
  ∃ rest, text = pre ++ rest ∧ t.location = Location.start.past pre ∧ t.lexeme.Heads rest

/-- The token stands in the text, behind some characters of it (`Token.Behind`). -/
def In (text : List Char) (t : Token) : Prop := ∃ pre, t.Behind text pre

/-- If the token is a word or a number (`Lexeme.isWord`), then no word ends where it stands. -/
def Apart (text : List Char) (t : Token) : Prop :=
  ∃ pre, t.Behind text pre ∧ (t.lexeme.isWord = true → pre = [] ∨ Cursor.EndsApart pre)

end Token

namespace Cursor

theorem exists_head_of_takeWhile {p : Char → Bool} {cs : List Char} (h : cs.takeWhile p ≠ []) :
    ∃ d ∈ cs.head?, p d = true := by
  cases cs with
  | nil => exact absurd rfl h
  | cons d ds =>
      refine ⟨d, rfl, ?_⟩
      by_contra hd
      exact h (List.takeWhile_cons_of_neg hd)

/-- A word or a number begins with a part of a word (`isWordPart`). -/
theorem exists_wordPart_of_heads {l : Lexeme} {cs : List Char} (hl : l.WellFormed)
    (hword : l.isWord = true) (h : l.Heads cs) : ∃ d ∈ cs.head?, isWordPart d = true := by
  cases l with
  | number value =>
      obtain ⟨d, hd, hdigit⟩ := exists_head_of_takeWhile h.1
      exact ⟨d, hd, isWordPart_of_isDigit hdigit⟩
  | identifier name =>
      obtain ⟨⟨d, ds, hname, -, -⟩, -⟩ := hl
      have hrun : cs.takeWhile isWordPart = d :: ds := h.trans hname
      exact exists_head_of_takeWhile (by simp [hrun])
  | keyword k =>
      have hrun : cs.takeWhile isWordPart = k.spelling.toList := h
      refine exists_head_of_takeWhile ?_
      rw [hrun]
      cases k <;> decide
  | stringLiteral | symbol | endOfFile => cases hword

/-- A token that `scan` reads stands in the text, and so does the cursor behind it. -/
theorem behind_scan {text pre : List Char} {c c' : Cursor} {t : Token} (h : c.Behind text pre)
    (hscan : c.scan = (.ok t, c')) : t.In text ∧ ∃ pre', c'.Behind text pre' := by
  obtain ⟨b, chars, ⟨layout, hlayout, -⟩, hchars, -, -, hlocation, hheads, -⟩ := scan_spec hscan
  have hb := h.moves hlayout
  exact ⟨⟨_, b.rest, hb.1, hlocation.trans hb.2, hheads⟩, _, hb.moves hchars⟩

theorem forall_mem_drain {text pre : List Char} {c : Cursor} (h : c.Behind text pre) :
    ∀ t ∈ (TokenSource.drain c).tokens, t.In text ∧ t.lexeme.WellFormed := by
  refine TokenSource.drain_induction (motive := fun c d => ∀ pre, c.Behind text pre →
    ∀ t ∈ d.tokens, t.In text ∧ t.lexeme.WellFormed) ?_ ?_ ?_ c pre h
  · intro s s' e _ pre _
    simp
  · intro s s' t hpull _ pre hs
    obtain ⟨b, chars, -, -, -, -, -, -, hwell⟩ := scan_spec hpull
    simpa using ⟨(behind_scan hs hpull).1, hwell⟩
  · intro s s' t hpull _ ih pre hs
    obtain ⟨b, chars, -, -, -, -, -, -, hwell⟩ := scan_spec hpull
    obtain ⟨ht, pre', hs'⟩ := behind_scan hs hpull
    exact List.forall_mem_cons.2 ⟨⟨ht, hwell⟩, ih pre' hs'⟩

/-! ### The order of tokens -/

/-- In `TokenSource.drain` every token stands behind the ones before it (`Location.Before`). -/
theorem pairwise_before_drain (c : Cursor) :
    ((TokenSource.drain c).tokens.map Token.location).Pairwise Location.Before := by
  rw [List.pairwise_map]
  suffices h : (∀ t ∈ (TokenSource.drain c).tokens, ∃ cs, t.location = c.location.past cs) ∧
      (TokenSource.drain c).tokens.Pairwise fun t u => t.location.Before u.location from h.2
  refine TokenSource.drain_induction (motive := fun c d =>
    (∀ t ∈ d.tokens, ∃ cs, t.location = c.location.past cs) ∧
      d.tokens.Pairwise fun t u => t.location.Before u.location) ?_ ?_ ?_ c
  · intro c c' e _
    simp
  · intro c c' t hpull _
    obtain ⟨b, chars, ⟨layout, hlayout, -⟩, -, -, -, hlocation, -, -⟩ := scan_spec hpull
    simpa using ⟨layout, hlocation.trans hlayout.location_eq⟩
  · intro c c' t hpull ht ih
    obtain ⟨b, chars, ⟨layout, hlayout, -⟩, hchars, hne, -, hlocation, -, -⟩ := scan_spec hpull
    obtain ⟨hplaces, hpairwise⟩ := ih
    have hhere := hlocation.trans hlayout.location_eq
    have hthere := (hlayout.trans hchars).location_eq
    refine ⟨List.forall_mem_cons.2 ⟨⟨layout, hhere⟩, ?_⟩, List.pairwise_cons.2 ⟨?_, hpairwise⟩⟩
    · intro u hu
      obtain ⟨cs, hcs⟩ := hplaces u hu
      exact ⟨layout ++ chars ++ cs, by rw [hcs, hthere, ← Location.past_append]⟩
    · intro u hu
      obtain ⟨cs, hcs⟩ := hplaces u hu
      -- Between the two tokens stand the characters of the first one.
      have hbetween : u.location = t.location.past (chars ++ cs) := by
        rw [hcs, hchars.location_eq, ← hlocation, ← Location.past_append]
      rw [hbetween]
      exact Location.before_past (by simp [hne ht]) _

/-! ### Words apart -/

/-- Between the text `pre` and the cursor no word is cut in two. -/
def Fresh (pre : List Char) (c : Cursor) : Prop := pre = [] ∨ Apart pre c.rest

/-- Behind a `Fresh` place, where no word is cut in two, the next token is `Apart`. -/
theorem apart_scan {text pre : List Char} {c c' : Cursor} {t : Token} (h : c.Behind text pre)
    (hfresh : c.Fresh pre) (hscan : c.scan = (.ok t, c')) : t.Apart text := by
  obtain ⟨b, chars, ⟨layout, hlayout, hend⟩, -, -, -, hlocation, hheads, hwell⟩ := scan_spec hscan
  have hb := h.moves hlayout
  refine ⟨_, ⟨b.rest, hb.1, hlocation.trans hb.2, hheads⟩, ?_⟩
  intro hword
  obtain ⟨d, hd, hpart⟩ := exists_wordPart_of_heads hwell hword hheads
  rcases hend with rfl | hnil | hend
  · -- Without layout the token stands at the cursor, and begins with a part of a word.
    rw [List.append_nil]
    have hrest : c.rest = b.rest := hlayout.rest_eq
    rcases hfresh with hpre | hends | hstop
    · exact .inl hpre
    · exact .inr hends
    · rw [hrest] at hstop
      simp [hstop d hd] at hpart
  · simp [hnil] at hd
  · -- Layout does not end with a part of a word.
    exact .inr (hend.append pre)

/-- Behind a token that is no number, no word is cut in two (`Fresh`). -/
theorem fresh_scan {text pre : List Char} {c c' : Cursor} {t : Token} (h : c.Behind text pre)
    (hscan : c.scan = (.ok t, c')) :
    ∃ pre', c'.Behind text pre' ∧ ((∀ v, t.lexeme ≠ .number v) → c'.Fresh pre') := by
  obtain ⟨b, chars, ⟨layout, hlayout, -⟩, hchars, -, hapart, -, -, -⟩ := scan_spec hscan
  refine ⟨_, (h.moves hlayout).moves hchars, ?_⟩
  intro hnumber
  rcases hapart hnumber with hends | hstop
  · exact .inr (.inl (hends.append _))
  · exact .inr (.inr hstop)

theorem isChain_drain_of_behind {text pre : List Char} {c : Cursor} (h : c.Behind text pre) :
    (c.Fresh pre → ∀ t ∈ (TokenSource.drain c).tokens.head?, t.Apart text) ∧
      (TokenSource.drain c).tokens.IsChain fun t u =>
        (∀ v, t.lexeme ≠ .number v) → u.Apart text := by
  refine TokenSource.drain_induction (motive := fun c d => ∀ pre, c.Behind text pre →
    (c.Fresh pre → ∀ t ∈ d.tokens.head?, t.Apart text) ∧
      d.tokens.IsChain fun t u => (∀ v, t.lexeme ≠ .number v) → u.Apart text) ?_ ?_ ?_ c pre h
  · intro c c' e _ pre _
    simp
  · intro c c' t hpull _ pre hc
    simpa using fun hfresh => apart_scan hc hfresh hpull
  · intro c c' t hpull _ ih pre hc
    obtain ⟨pre', hc', hfresh'⟩ := fresh_scan hc hpull
    obtain ⟨hhead, hchain⟩ := ih pre' hc'
    constructor
    · simpa using fun hfresh => apart_scan hc hfresh hpull
    · exact List.isChain_cons.2 ⟨fun u hu hnumber => hhead (hfresh' hnumber) u hu, hchain⟩

/-- **No word is cut in two**: unless it stands behind a number, a token of a text does not
begin inside a word (`Token.Apart`). -/
theorem isChain_drain (text : String) :
    (∀ t ∈ (TokenSource.drain (ofText text)).tokens.head?, t.Apart text.toList) ∧
      (TokenSource.drain (ofText text)).tokens.IsChain fun t u =>
        (∀ v, t.lexeme ≠ .number v) → u.Apart text.toList := by
  obtain ⟨hhead, hchain⟩ := isChain_drain_of_behind (behind_ofText text)
  exact ⟨hhead (.inl rfl), hchain⟩

end Cursor

end SyntaxExplorer
