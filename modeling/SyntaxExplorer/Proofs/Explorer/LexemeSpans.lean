import SyntaxExplorer.Proofs.Explorer.Highlight
import SyntaxExplorer.Proofs.Scanner.Tokens

/-!
# SyntaxExplorer.Proofs.Explorer.LexemeSpans

**What highlighting makes of lexemes.** A string literal is a span, and so is every blank and
every character of a symbol; a word that is over is a span as well. Only reserved words get
the two styles that are theirs (`Style.IsReserved`).

So the reserved words of a text can be found among its spans, each of which is taken with the
text in front of it (`Line.placed`). That a text shows its reserved words, and nothing else
in their styles, is put together from its pieces (`ShowsKeywords.append`).
-/

namespace SyntaxExplorer

open Highlight

/-! ### Where spans stand -/

/-- The spans of a line, each with the text in front of it, where `front` stands in front
of the line. -/
def Line.placed (front : List Char) : Line → List (List Char × Span)
  | [] => []
  | s :: line => (front, s) :: Line.placed (front ++ s.content) line

theorem Line.placed_append (front : List Char) (line line' : Line) :
    Line.placed front (line ++ line') =
      Line.placed front line ++ Line.placed (front ++ Line.text line) line' := by
  induction line generalizing front with
  | nil => simp [placed]
  | cons s line ih => simp [placed, ih]

theorem Line.mem_placed_iff {front : List Char} {line : Line} {x : List Char × Span} :
    x ∈ Line.placed front line ↔
      ∃ before after, line = before ++ x.2 :: after ∧ x.1 = front ++ Line.text before := by
  constructor
  · intro h
    induction line generalizing front with
    | nil => cases h
    | cons s line ih =>
        rcases List.mem_cons.1 h with rfl | h
        · exact ⟨[], line, rfl, by simp⟩
        · obtain ⟨before, after, rfl, hpre⟩ := ih h
          exact ⟨s :: before, after, rfl, by simp [hpre]⟩
  · rintro ⟨before, after, rfl, hpre⟩
    rw [placed_append, placed, ← hpre]
    exact List.mem_append_right _ List.mem_cons_self

/-! ### The styles of reserved words -/

/-- The style that `highlight` gives to the words that are types. -/
def typeStyle : Style := .ofColor Palette.typeName

/-- The bold style that `highlight` gives to the other reserved words. -/
def keywordStyle : Style := (Style.ofColor Palette.keyword).emphasised

def Keyword.style : Keyword → Style
  | .int | .char | .void => typeStyle
  | _ => keywordStyle

/-- The style of a reserved word: `typeStyle` or `keywordStyle`. -/
def Style.IsReserved (s : Style) : Prop := s = typeStyle ∨ s = keywordStyle

instance (s : Style) : Decidable s.IsReserved :=
  inferInstanceAs (Decidable (s = typeStyle ∨ s = keywordStyle))

theorem wordStyle_spelling (k : Keyword) (isCalled : Bool) :
    wordStyle k.spelling isCalled = k.style := by
  cases k <;> rfl

theorem not_isReserved_wordStyle {word : String} (h : Keyword.ofSpelling? word = none)
    (isCalled : Bool) : ¬ (wordStyle word isCalled).IsReserved := by
  unfold wordStyle
  rw [h]
  simp only
  split
  · decide
  · split <;> decide

theorem not_isReserved_styleBefore {word : List Char}
    (h : Keyword.ofSpelling? (String.ofList word) = none) (cs : List Char) :
    ¬ (styleBefore word cs).IsReserved := by
  unfold styleBefore
  split
  · decide
  · exact not_isReserved_wordStyle h _

theorem not_isReserved_charStyle (c : Char) : ¬ (charStyle c).IsReserved := by
  unfold charStyle
  split <;> decide

/-! ### Characters of words -/

theorem toNat_lt_of_isWordPart {c : Char} (h : isWordPart c = true) : c.toNat < 0x80 := by
  have hle : c.val ≤ 'z'.val := by
    rcases Bool.or_eq_true_iff.1 h with halphanum | hunderscore
    · rcases Bool.or_eq_true_iff.1 halphanum with halpha | hdigit
      · rcases Bool.or_eq_true_iff.1 halpha with hupper | hlower
        · exact UInt32.le_trans (of_decide_eq_true hupper).2 (by decide)
        · exact of_decide_eq_true (Bool.and_eq_true_iff.1 hlower).2
      · exact UInt32.le_trans (of_decide_eq_true (Bool.and_eq_true_iff.1 hdigit).2) (by decide)
    · rw [eq_of_beq hunderscore]
      decide
  exact Nat.lt_of_le_of_lt (UInt32.le_iff_toNat_le.1 hle) (by decide)

theorem isWordChar_of_isWordPart {c : Char} (h : isWordPart c = true) : isWordChar c = true := by
  rw [isWordChar, Text.isAlphanumeric_of_ascii (toNat_lt_of_isWordPart h)]
  exact h

theorem isWordChar_of_isDigit {c : Char} (h : c.isDigit = true) : isWordChar c = true :=
  isWordChar_of_isWordPart (Cursor.isWordPart_of_isDigit h)

theorem isWordChar_of_mem_keyword (k : Keyword) :
    ∀ c ∈ k.spelling.toList, isWordChar c = true :=
  List.all_eq_true.1 (by cases k <;> decide)

/-- `Keyword.ofSpelling?` finds no word that begins with a digit. -/
theorem ofSpelling?_digits {digits : List Char} (hne : digits ≠ [])
    (hdigits : ∀ d ∈ digits, d.isDigit = true) (word : List Char) :
    Keyword.ofSpelling? (String.ofList (digits ++ word)) = none := by
  rw [Option.eq_none_iff_forall_ne_some]
  rintro k hk
  obtain ⟨d, ds, hspelling, hd, -⟩ := Cursor.exists_spelling_eq_cons k
  obtain ⟨d', digits, rfl⟩ := List.exists_cons_of_ne_nil hne
  have hword := congrArg String.toList (Keyword.eq_spelling_of_ofSpelling? hk)
  rw [String.toList_ofList, hspelling] at hword
  obtain ⟨rfl, -⟩ := List.cons.inj hword
  have hdigit := hdigits d' List.mem_cons_self
  rw [Cursor.isDigit_of_isWordStart hd] at hdigit
  cases hdigit

/-! ### Spans of lexemes -/

/-- `literalFrom` reads a string literal as `SpellsContents` spells it, up to its closing
quote. -/
theorem literalFrom_contents {contents body : List Char} (h : SpellsContents contents body)
    (read more : List Char) :
    literalFrom read (body ++ '"' :: more) = (read.reverse ++ (body ++ ['"']), more) := by
  induction h generalizing read with
  | nil => simp [literalFrom]
  | cons hpiece _ ih =>
      cases hpiece with
      | itself hquote hslash =>
          rw [List.append_assoc, List.singleton_append, literalFrom, ih]
          · simp
          · exact hquote
          · rintro c cs rfl
            exact absurd rfl hslash
      | _ => simp [literalFrom, ih]

/-- `highlight` makes a string literal a span. -/
theorem highlight_literal {contents body : List Char} (h : SpellsContents contents body)
    (cs : List Char) :
    highlight ('"' :: (body ++ ['"']) ++ cs) =
      ⟨'"' :: (body ++ ['"']), .ofColor Palette.stringLiteral⟩ :: highlight cs := by
  have hliteral := literalFrom_contents h ['"'] cs
  rw [highlight, List.cons_append, List.append_assoc, List.singleton_append, spansFrom]
  simp only [hliteral]
  exact spansFrom_singleton ⟨'"' :: (body ++ ['"']), .ofColor Palette.stringLiteral⟩ cs

/-- A character that is a span of its own, whatever follows. -/
def IsMark (c : Char) : Prop := isWordChar c = false ∧ c ≠ '/' ∧ c ≠ '"'

theorem isMark_of_isBlank {c : Char} (h : Cursor.isBlank c = true) : IsMark c := by
  simp only [Cursor.isBlank, Bool.or_eq_true, beq_iff_eq] at h
  rcases h with ((rfl | rfl) | rfl) | rfl <;> exact ⟨by decide, by decide, by decide⟩

theorem isMark_of_mem_spelling {s : Symbol} (hs : s ≠ .slash) {c : Char}
    (h : c ∈ s.spelling.toList) : IsMark c := by
  have hall : (s.spelling.toList.all fun c => !isWordChar c && c != '/' && c != '"') = true := by
    cases s <;> first | exact absurd rfl hs | decide
  simpa [IsMark, and_assoc] using List.all_eq_true.1 hall c h

/-- The spans of single characters. -/
def marks (cs : List Char) : Line := cs.map fun c => ⟨[c], charStyle c⟩

theorem text_marks (cs : List Char) : Line.text (marks cs) = cs := by
  induction cs with
  | nil => rfl
  | cons c cs ih => exact congrArg (c :: ·) ih

theorem not_isReserved_of_mem_marks (cs : List Char) :
    ∀ s ∈ marks cs, ¬ s.style.IsReserved := by
  rintro s hs
  obtain ⟨c, -, rfl⟩ := List.mem_map.1 hs
  exact not_isReserved_charStyle c

theorem highlight_marks {chars : List Char} (h : ∀ c ∈ chars, IsMark c) (cs : List Char) :
    highlight (chars ++ cs) = marks chars ++ highlight cs := by
  induction chars with
  | nil => rfl
  | cons c chars ih =>
      rw [List.forall_mem_cons] at h
      obtain ⟨hword, hslash, hquote⟩ := h.1
      rw [List.cons_append, highlight_char hword (fun hc => hslash hc.1) hquote, ih h.2]
      rfl

/-- `highlight` makes the characters of a symbol `marks`. -/
theorem highlight_symbol (s : Symbol) {cs : List Char} (h : (Lexeme.symbol s).EndsBefore cs) :
    highlight (s.spelling.toList ++ cs) = marks s.spelling.toList ++ highlight cs := by
  by_cases hs : s = .slash
  · subst hs
    have hcomment : ¬ ('/' = '/' ∧ cs.head? = some '/') := by
      rintro ⟨-, hslash⟩
      exact h '/' hslash (.inr ⟨rfl, .inl rfl⟩)
    exact highlight_char (by decide) hcomment (by decide)
  · exact highlight_marks (fun c => isMark_of_mem_spelling hs) cs

/-! ### Showing reserved words -/

/-- The last one of the characters is a digit. -/
def EndsWithDigit (cs : List Char) : Prop := ∃ d ∈ cs.getLast?, d.isDigit = true

/-- How a reserved word between `pre` and `rest` is shown. Behind a number it is in one
span with the digits, which is not styled as a reserved word is. Otherwise it is a span of
its own, in its style, at least where neither a literal nor a comment follows. -/
structure Keyword.ShownIn (k : Keyword) (pre rest : List Char) (spans : List (List Char × Span)) :
    Prop where
  behind_number : EndsWithDigit pre → ∃ front digits style, pre = front ++ digits ∧
    digits ≠ [] ∧ (∀ d ∈ digits, d.isDigit = true) ∧
    (front, ⟨digits ++ k.spelling.toList, style⟩) ∈ spans ∧ ¬ style.IsReserved
  alone : ¬ EndsWithDigit pre → ¬ CutsWord rest → (pre, ⟨k.spelling.toList, k.style⟩) ∈ spans

theorem Keyword.ShownIn.mono {k : Keyword} {pre rest : List Char}
    {spans spans' : List (List Char × Span)} (h : k.ShownIn pre rest spans)
    (hsub : spans ⊆ spans') : k.ShownIn pre rest spans' where
  behind_number hpre := by
    obtain ⟨front, digits, style, hcut, hne, hdigits, hmem, hstyle⟩ := h.behind_number hpre
    exact ⟨front, digits, style, hcut, hne, hdigits, hsub hmem, hstyle⟩
  alone hpre hrest := hsub (h.alone hpre hrest)

/-- Behind `front`, highlighting `cs` shows the reserved words among the tokens, and styles
nothing else as a reserved word. -/
structure ShowsKeywords (front cs : List Char) (ts : List Token) : Prop where
  shown : ∀ k here, ⟨.keyword k, here⟩ ∈ ts → ∃ pre rest,
    front ++ cs = pre ++ (k.spelling.toList ++ rest) ∧ here = Location.start.past pre ∧
      k.ShownIn pre rest (Line.placed front (highlight cs))
  only : ∀ x ∈ Line.placed front (highlight cs), x.2.style.IsReserved →
    ∃ k, x.2 = ⟨k.spelling.toList, k.style⟩ ∧ ⟨.keyword k, Location.start.past x.1⟩ ∈ ts ∧
      ¬ EndsWithDigit x.1

namespace ShowsKeywords

variable {front word rest : List Char} {ts : List Token} (spans : Line) (new : List Token)

/-- `ShowsKeywords` stays where spans are put in front, and the tokens that they show. -/
theorem append (hspans : highlight (word ++ rest) = spans ++ highlight rest)
    (htext : Line.text spans = word)
    (hshown : ∀ k here, ⟨.keyword k, here⟩ ∈ new → ∃ pre rest',
      front ++ (word ++ rest) = pre ++ (k.spelling.toList ++ rest') ∧
        here = Location.start.past pre ∧ k.ShownIn pre rest' (Line.placed front spans))
    (honly : ∀ x ∈ Line.placed front spans, x.2.style.IsReserved →
      ∃ k, x.2 = ⟨k.spelling.toList, k.style⟩ ∧ ⟨.keyword k, Location.start.past x.1⟩ ∈ new ∧
        ¬ EndsWithDigit x.1)
    (h : ShowsKeywords (front ++ word) rest ts) :
    ShowsKeywords front (word ++ rest) (new ++ ts) := by
  have hplaced : Line.placed front (highlight (word ++ rest)) =
      Line.placed front spans ++ Line.placed (front ++ word) (highlight rest) := by
    rw [hspans, Line.placed_append, htext]
  constructor
  · intro k here hmem
    rw [hplaced]
    rcases List.mem_append.1 hmem with hmem | hmem
    · obtain ⟨pre, rest', htext, hhere, hshown⟩ := hshown k here hmem
      exact ⟨pre, rest', htext, hhere, hshown.mono (List.subset_append_left _ _)⟩
    · obtain ⟨pre, rest', htext, hhere, hshown⟩ := h.shown k here hmem
      rw [List.append_assoc] at htext
      exact ⟨pre, rest', htext, hhere, hshown.mono (List.subset_append_right _ _)⟩
  · intro x hx hreserved
    rw [hplaced] at hx
    rcases List.mem_append.1 hx with hx | hx
    · obtain ⟨k, hspan, hmem, hdigit⟩ := honly x hx hreserved
      exact ⟨k, hspan, List.mem_append_left _ hmem, hdigit⟩
    · obtain ⟨k, hspan, hmem, hdigit⟩ := h.only x hx hreserved
      exact ⟨k, hspan, List.mem_append_right _ hmem, hdigit⟩

/-- `ShowsKeywords` stays where spans and tokens are put in front that have nothing to do with
reserved words. -/
theorem append_plain (hspans : highlight (word ++ rest) = spans ++ highlight rest)
    (htext : Line.text spans = word) (hstyle : ∀ s ∈ spans, ¬ s.style.IsReserved)
    (hnew : ∀ k here, ⟨.keyword k, here⟩ ∉ new)
    (h : ShowsKeywords (front ++ word) rest ts) :
    ShowsKeywords front (word ++ rest) (new ++ ts) :=
  append spans new hspans htext (fun k here hmem => absurd hmem (hnew k here))
    (fun x hx hreserved => by
      obtain ⟨before, after, rfl, -⟩ := Line.mem_placed_iff.1 hx
      exact absurd hreserved (hstyle x.2 (by simp))) h

/-- `ShowsKeywords` asks nothing of a token that is no reserved word. -/
theorem other {t : Token} (ht : ∀ k, t.lexeme ≠ .keyword k) (h : ShowsKeywords front rest ts) :
    ShowsKeywords front rest (t :: ts) :=
  append_plain [] [t] (List.nil_append _).symm rfl (by simp)
    (fun k here hmem => ht k (by rw [← List.mem_singleton.1 hmem])) (by simpa using h)

/-- A reserved word that is a word on its own is `ShownIn` its line. -/
theorem keyword (k : Keyword) (hfront : ¬ EndsWithDigit front) (hrest : EndsWord rest)
    (h : ShowsKeywords (front ++ k.spelling.toList) rest ts) :
    ShowsKeywords front (k.spelling.toList ++ rest)
      (⟨.keyword k, Location.start.past front⟩ :: ts) := by
  have hspans : highlight (k.spelling.toList ++ rest) =
      [⟨k.spelling.toList, styleBefore k.spelling.toList rest⟩] ++ highlight rest :=
    highlight_word (by cases k <;> decide) (isWordChar_of_mem_keyword k) hrest
  have hstyle : ¬ CutsWord rest → styleBefore k.spelling.toList rest = k.style := by
    intro hcut
    rw [styleBefore, if_neg hcut, String.ofList_toList, wordStyle_spelling]
  refine append _ [_] hspans (by simp) ?_ ?_ h
  · intro k' here hmem
    cases List.mem_singleton.1 hmem
    refine ⟨front, rest, rfl, rfl, fun hdigit => absurd hdigit hfront, fun _ hcut => ?_⟩
    rw [hstyle hcut]
    exact List.mem_cons_self
  · intro x hx hreserved
    cases List.mem_singleton.1 hx
    have hcut : ¬ CutsWord rest := by
      intro hcut
      simp only [styleBefore, if_pos hcut] at hreserved
      exact absurd hreserved (by decide)
    exact ⟨k, by rw [hstyle hcut], List.mem_cons_self, hfront⟩

/-- A reserved word behind a number is in one span with it, as `ShownIn` has it. -/
theorem keyword_behind_number (k : Keyword) {digits : List Char} (hne : digits ≠ [])
    (hdigits : ∀ d ∈ digits, d.isDigit = true) (hrest : EndsWord rest)
    (h : ShowsKeywords (front ++ digits ++ k.spelling.toList) rest ts) :
    ShowsKeywords front (digits ++ k.spelling.toList ++ rest)
      (⟨.keyword k, Location.start.past (front ++ digits)⟩ :: ts) := by
  have hspans : highlight (digits ++ k.spelling.toList ++ rest) =
      [⟨digits ++ k.spelling.toList, styleBefore (digits ++ k.spelling.toList) rest⟩] ++
        highlight rest :=
    highlight_word (by simp [hne]) (List.forall_mem_append.2 ⟨fun d hd =>
      isWordChar_of_isDigit (hdigits d hd), isWordChar_of_mem_keyword k⟩) hrest
  have hstyle : ¬ (styleBefore (digits ++ k.spelling.toList) rest).IsReserved :=
    not_isReserved_styleBefore (ofSpelling?_digits hne hdigits _) rest
  have hlast : EndsWithDigit (front ++ digits) := by
    refine ⟨digits.getLast hne, ?_, hdigits _ (List.getLast_mem hne)⟩
    rw [List.getLast?_append_of_ne_nil front hne, List.getLast?_eq_some_getLast hne]
    rfl
  refine append _ [_] hspans (by simp) ?_ ?_ (by rwa [List.append_assoc] at h)
  · intro k' here hmem
    cases List.mem_singleton.1 hmem
    refine ⟨front ++ digits, rest, by simp, rfl, fun _ => ?_, fun hdigit => absurd hlast hdigit⟩
    exact ⟨front, digits, _, rfl, hne, hdigits, List.mem_cons_self, hstyle⟩
  · intro x hx hreserved
    cases List.mem_singleton.1 hx
    exact absurd hreserved hstyle

end ShowsKeywords

end SyntaxExplorer
