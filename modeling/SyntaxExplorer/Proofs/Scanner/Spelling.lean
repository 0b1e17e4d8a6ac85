import SyntaxExplorer.Proofs.Program.WellFormed
import SyntaxExplorer.Proofs.Scanner.Layout

/-!
# SyntaxExplorer.Proofs.Scanner.Spelling

**How lexemes are written, and what scanning makes of it.** Some lexemes can be written
in several ways (`Lexeme.Spells`): a number may have zeros in front, and in a string
literal some characters may be escaped and two must be. A spelling is over where the next
character does not go on with it (`Lexeme.EndsBefore`): words and numbers are read as far
as they go, and a symbol of two characters goes before one of a single character.

A spelling that is over is read as its lexeme (`scan_spells`), and whatever is read is the
spelling of the token and is over (`scan_cases`).
-/

namespace SyntaxExplorer

/-! ### Spellings -/

/-- How a character of a string literal is written. -/
inductive SpellsChar : Char → List Char → Prop
  | quote : SpellsChar '"' ['\\', '"']
  | backslash : SpellsChar '\\' ['\\', '\\']
  | lineFeed : SpellsChar '\n' ['\\', 'n']
  | tab : SpellsChar '\t' ['\\', 't']
  | itself {c} : c ≠ '"' → c ≠ '\\' → SpellsChar c [c]

/-- How the contents of a string literal are written between its quotes, by `SpellsChar`. -/
inductive SpellsContents : List Char → List Char → Prop
  | nil : SpellsContents [] []
  | cons {c cs piece body} : SpellsChar c piece → SpellsContents cs body →
      SpellsContents (c :: cs) (piece ++ body)

/-- The characters are a way to write the lexeme, of which a number and a string literal have
many. The end of the text is not written. -/
inductive Lexeme.Spells : Lexeme → List Char → Prop
  | number {digits : List Char} : digits ≠ [] → (∀ c ∈ digits, c.isDigit = true) →
      Nat.ofDigitChars 10 digits 0 < numberBound →
      Spells (.number (Nat.ofDigitChars 10 digits 0)) digits
  | identifier {name} : IsName name → Spells (.identifier name) name.toList
  | stringLiteral {contents body} : SpellsContents contents.toList body →
      Spells (.stringLiteral contents) ('"' :: (body ++ ['"']))
  | keyword (k : Keyword) : Spells (.keyword k) k.spelling.toList
  | symbol (s : Symbol) : Spells (.symbol s) s.spelling.toList

/-- With the character behind it, the symbol is spelled like another one or opens a
comment. -/
def Symbol.GoesOn (s : Symbol) (c : Char) : Prop :=
  (∃ s' : Symbol, s'.spelling.toList = s.spelling.toList ++ [c]) ∨
    s = .slash ∧ (c = '/' ∨ c = '*')

namespace Lexeme

theorem Spells.ne_nil {l : Lexeme} {word : List Char} (h : l.Spells word) : word ≠ [] := by
  cases h with
  | number hne => exact hne
  | identifier hname =>
      obtain ⟨⟨c, cs, hspelling, -⟩, -⟩ := hname
      simp [hspelling]
  | stringLiteral => exact List.cons_ne_nil _ _
  | keyword k => cases k <;> decide
  | symbol s => cases s <;> decide

theorem Spells.ne_endOfFile {l : Lexeme} {word : List Char} (h : l.Spells word) :
    l ≠ .endOfFile := by
  rintro rfl
  cases h

theorem Spells.isEnd_eq_false {l : Lexeme} {word : List Char} (h : l.Spells word)
    (here : Location) : (⟨l, here⟩ : Token).isEnd = false := by
  cases h <;> rfl

/-- With the character behind it, the lexeme would be another one. -/
def GoesOn : Lexeme → Char → Prop
  | number _, c => c.isDigit = true
  | identifier _, c => isWordPart c = true
  | stringLiteral _, _ => False
  | keyword _, c => isWordPart c = true
  | symbol s, c => s.GoesOn c
  | endOfFile, _ => True

/-- The text behind the lexeme does not go on with it (`GoesOn`). -/
def EndsBefore (l : Lexeme) (rest : List Char) : Prop := ∀ c ∈ rest.head?, ¬ l.GoesOn c

end Lexeme

/-- A text that separates from what stands in front of it: it is empty or begins with a blank
(`isBlank`). -/
def Cursor.Parted (more : List Char) : Prop := ∀ c ∈ more.head?, Cursor.isBlank c = true

instance (more : List Char) : Decidable (Cursor.Parted more) :=
  decidable_of_iff (more.head?.all Cursor.isBlank = true) (Option.all_eq_true ..)

namespace Cursor

variable {more rest : List Char} {here : Location}

/-! ### Characters -/

theorem isDigit_of_isBlank {c : Char} (h : isBlank c = true) : c.isDigit = false := by
  simp only [isBlank, Bool.or_eq_true, beq_iff_eq] at h
  rcases h with ((rfl | rfl) | rfl) | rfl <;> decide

theorem isDigit_of_isAlpha {c : Char} (h : c.isAlpha = true) : c.isDigit = false := by
  -- The letters come behind the digits.
  have hle : 'A'.val ≤ c.val := by
    rcases Bool.or_eq_true_iff.1 h with hupper | hlower
    · exact (of_decide_eq_true hupper).1
    · exact UInt32.le_trans (by decide) (of_decide_eq_true (Bool.and_eq_true_iff.1 hlower).1)
  refine Bool.eq_false_iff.2 fun hdigit => ?_
  have hnine : c.val ≤ '9'.val := of_decide_eq_true (Bool.and_eq_true_iff.1 hdigit).2
  exact absurd (UInt32.le_trans hle hnine) (by decide)

theorem isWordPart_of_isDigit {c : Char} (h : c.isDigit = true) : isWordPart c = true := by
  simp [isWordPart, Char.isAlphanum, h]

theorem isDigit_of_isWordStart {c : Char} (h : isWordStart c = true) : c.isDigit = false := by
  simp only [isWordStart, Bool.or_eq_true, beq_iff_eq] at h
  rcases h with h | rfl
  · exact isDigit_of_isAlpha h
  · decide

theorem isBlank_of_mem_spelling {s : Symbol} {c : Char} (h : c ∈ s.spelling.toList) :
    isBlank c = false := by
  have hall : (s.spelling.toList.all fun c => !isBlank c) = true := by
    cases s <;> decide
  simpa using List.all_eq_true.1 hall c h

/-- No lexeme `GoesOn` with a blank. -/
theorem not_goesOn_of_isBlank {l : Lexeme} (hl : l ≠ .endOfFile) {c : Char}
    (h : isBlank c = true) : ¬ l.GoesOn c := by
  cases l with
  | number => simp [Lexeme.GoesOn, isDigit_of_isBlank h]
  | identifier | keyword => simp [Lexeme.GoesOn, isWordPart_of_isBlank h]
  | stringLiteral => exact not_false
  | symbol s =>
      rintro (⟨s', hs'⟩ | ⟨-, rfl | rfl⟩)
      · have hmem : c ∈ s'.spelling.toList := by simp [hs']
        simp [isBlank_of_mem_spelling hmem] at h
      · cases h
      · cases h
  | endOfFile => exact absurd rfl hl

theorem Parted.endsBefore {l : Lexeme} (h : Parted more) (hl : l ≠ .endOfFile) :
    l.EndsBefore more :=
  fun c hc => not_goesOn_of_isBlank hl (h c hc)

/-- A spelling that is over (`EndsBefore`) stays so, whatever `Parted` text follows. -/
theorem endsBefore_append {l : Lexeme} (hl : l ≠ .endOfFile) (h : l.EndsBefore rest)
    (hmore : Parted more) : l.EndsBefore (rest ++ more) := by
  cases rest with
  | nil => exact hmore.endsBefore hl
  | cons c rest => exact h

/-- `Cursor.run` ends where the property ends. -/
theorem run_append {p : Char → Bool} {w : List Char} (hw : ∀ c ∈ w, p c = true)
    (hmore : ∀ c ∈ more.head?, p c = false) (here : Location) :
    (⟨w ++ more, here⟩ : Cursor).run p = (w, ⟨more, here.past w⟩) := by
  have hstop : more.takeWhile p = [] ∧ more.dropWhile p = more := by
    cases more with
    | nil => exact ⟨rfl, rfl⟩
    | cons c cs =>
        have hc : p c = false := hmore c rfl
        simp [hc]
  simp only [run, behind, List.takeWhile_append_of_pos hw, List.dropWhile_append_of_pos hw, hstop,
    List.append_nil]

/-- Behind a run stands no character with the property. -/
theorem head?_dropWhile {p : Char → Bool} {cs : List Char} {c : Char}
    (h : c ∈ (cs.dropWhile p).head?) : p c = false := by
  have hstop := List.head?_dropWhile_not p cs
  rw [Option.mem_def.1 h] at hstop
  exact hstop

/-! ### What a token starts with -/

theorem not_opensLayout {d : Char} {cs : List Char} (hblank : isBlank d = false)
    (hslash : d ≠ '/') : ¬ OpensLayout (d :: cs) := by
  exact not_opensLayout_cons (fun _ h _ => hslash h) (fun _ h _ => hslash h) (by simp [hblank])

/-- Where a digit stands, `scan` goes on with `number`. -/
theorem scan_digit {d : Char} (hd : d.isDigit = true) (cs : List Char) (here : Location) :
    scan ⟨d :: cs, here⟩ = number ⟨d :: cs, here⟩ := by
  have hblank : isBlank d = false := by
    refine Bool.eq_false_iff.2 fun h => ?_
    simp [isDigit_of_isBlank h] at hd
  have hother : d ≠ '/' ∧ d ≠ '"' := by
    constructor <;> rintro rfl <;> simp at hd
  rw [scan_of_not_opensLayout (not_opensLayout hblank hother.1), token]
  simp only [if_neg hother.2, hd, if_true]

/-- Where a letter or an underscore stands, `scan` goes on with `word`. -/
theorem scan_wordStart {d : Char} (hd : isWordStart d = true) (cs : List Char)
    (here : Location) :
    scan ⟨d :: cs, here⟩ = (.ok (word ⟨d :: cs, here⟩).1, (word ⟨d :: cs, here⟩).2) := by
  have hblank : isBlank d = false := by
    refine Bool.eq_false_iff.2 fun h => ?_
    have hpart := isWordPart_of_isBlank h
    simp [isWordPart_of_isWordStart hd] at hpart
  have hother : d ≠ '/' ∧ d ≠ '"' ∧ d.isDigit = false := by
    refine ⟨?_, ?_, isDigit_of_isWordStart hd⟩ <;> rintro rfl <;> simp [isWordStart] at hd
  rw [scan_of_not_opensLayout (not_opensLayout hblank hother.1), token]
  simp only [if_neg hother.2.1, hother.2.2, hd, if_true, Bool.false_eq_true, if_false]

/-! ### Spellings are read -/

/-- `scan` reads a number as far as its digits go. -/
theorem scan_number {digits : List Char} (hne : digits ≠ [])
    (hdigits : ∀ c ∈ digits, c.isDigit = true)
    (hvalue : Nat.ofDigitChars 10 digits 0 < numberBound)
    (hrest : ∀ c ∈ rest.head?, c.isDigit = false) (here : Location) :
    scan ⟨digits ++ rest, here⟩ =
      (.ok ⟨.number (Nat.ofDigitChars 10 digits 0), here⟩, ⟨rest, here.past digits⟩) := by
  have hrun := run_append hdigits hrest here
  obtain ⟨d, ds, rfl⟩ := List.exists_cons_of_ne_nil hne
  rw [List.cons_append, scan_digit (hdigits d List.mem_cons_self), number, ← List.cons_append, hrun]
  simp only [if_pos hvalue]

/-- `scan` reads a word as far as it goes. -/
theorem scan_word {w : String} {d : Char} {ds : List Char} (hw : w.toList = d :: ds)
    (hd : isWordStart d = true) (hds : ∀ c ∈ ds, isWordPart c = true)
    (hrest : ∀ c ∈ rest.head?, isWordPart c = false) (here : Location) :
    scan ⟨w.toList ++ rest, here⟩ = (.ok ⟨.ofWord w, here⟩, ⟨rest, here.past w.toList⟩) := by
  have hparts : ∀ c ∈ w.toList, isWordPart c = true := by
    rw [hw, List.forall_mem_cons]
    exact ⟨isWordPart_of_isWordStart hd, hds⟩
  have hrun := run_append hparts hrest here
  have hscan := scan_wordStart hd (ds ++ rest) here
  rw [← List.cons_append, ← hw] at hscan
  simp only [hscan, word, hrun, String.ofList_toList]

theorem ofWord_of_isName {name : String} (h : IsName name) :
    Lexeme.ofWord name = .identifier name := by
  unfold Lexeme.ofWord
  split
  · rename_i k hk
    exact absurd (Keyword.eq_spelling_of_ofSpelling? hk) (h.2 k)
  · rfl

theorem ofWord_spelling (k : Keyword) : Lexeme.ofWord k.spelling = .keyword k := by
  rw [Lexeme.ofWord, Keyword.ofSpelling?_spelling]

theorem exists_spelling_eq_cons (k : Keyword) :
    ∃ d ds, k.spelling.toList = d :: ds ∧ isWordStart d = true ∧
      ∀ c ∈ ds, isWordPart c = true := by
  cases k <;> exact ⟨_, _, rfl, by decide, List.all_eq_true.1 (by decide)⟩

/-- `Symbol.at?` finds the longest symbol. -/
theorem at?_spelling (s : Symbol) (hrest : (Lexeme.symbol s).EndsBefore rest) :
    Symbol.at? (s.spelling.toList ++ rest) = some s := by
  cases rest with
  | nil => cases s <;> rfl
  | cons c cs =>
      have hne : ∀ (s' : Symbol) (d : Char), s'.spelling.toList = s.spelling.toList ++ [d] →
          c ≠ d := by
        rintro s' d hs' rfl
        exact hrest c rfl (.inl ⟨s', hs'⟩)
      cases s with
      | assign => simp [Symbol.spelling, Symbol.at?, hne .equal '=' rfl]
      | bang => simp [Symbol.spelling, Symbol.at?, hne .notEqual '=' rfl]
      | less => simp [Symbol.spelling, Symbol.at?, hne .lessEqual '=' rfl]
      | greater => simp [Symbol.spelling, Symbol.at?, hne .greaterEqual '=' rfl]
      | ampersand => simp [Symbol.spelling, Symbol.at?, hne .andAnd '&' rfl]
      | _ => rfl

/-- The first character of a symbol starts nothing else that `scan` reads, but for the comments
of a slash. -/
theorem exists_symbol_eq_cons (s : Symbol) :
    ∃ d ds, s.spelling.toList = d :: ds ∧ isBlank d = false ∧ d ≠ '"' ∧ d.isDigit = false ∧
      isWordStart d = false ∧ (d = '/' → s = .slash) := by
  cases s <;> exact ⟨_, _, rfl, by decide, by decide, by decide, by decide, by decide⟩

theorem not_opensLayout_symbol (s : Symbol) (hrest : (Lexeme.symbol s).EndsBefore rest) :
    ¬ OpensLayout (s.spelling.toList ++ rest) := by
  obtain ⟨d, ds, hspelling, hblank, -, -, -, hslash⟩ := exists_symbol_eq_cons s
  by_cases hd : d = '/'
  · obtain rfl := hslash hd
    rintro (⟨c, hc, hc'⟩ | ⟨cs, hline⟩ | ⟨cs, hblock⟩)
    · cases hc
      cases hc'
    · obtain rfl := (List.cons.inj hline).2
      exact hrest '/' rfl (.inr ⟨rfl, .inl rfl⟩)
    · obtain rfl := (List.cons.inj hblock).2
      exact hrest '*' rfl (.inr ⟨rfl, .inr rfl⟩)
  · rw [hspelling]
    exact not_opensLayout hblank hd

theorem scan_symbol (s : Symbol) (hrest : (Lexeme.symbol s).EndsBefore rest) (here : Location) :
    scan ⟨s.spelling.toList ++ rest, here⟩ =
      (.ok ⟨.symbol s, here⟩, ⟨rest, here.past s.spelling.toList⟩) := by
  obtain ⟨d, ds, hspelling, -, hquote, hdigit, hword, -⟩ := exists_symbol_eq_cons s
  have hat := at?_spelling s hrest
  rw [scan_of_not_opensLayout (not_opensLayout_symbol s hrest), token]
  simp only [hspelling, List.cons_append] at hat ⊢
  simp only [if_neg hquote, hdigit, hword, hat, Bool.false_eq_true, if_false, behind, hspelling]
  simp

/-- `stringBody` reads a character from any of its spellings (`SpellsChar`). -/
theorem stringBody_piece {c : Char} {piece : List Char} (h : SpellsChar c piece)
    (opening here : Location) (read more : List Char) :
    stringBody opening here read (piece ++ more) =
      stringBody opening (here.past piece) (c :: read) more := by
  cases h with
  | itself hquote hslash =>
      rw [List.singleton_append, stringBody]
      · rfl
      · simp_all
      · simp_all
      · simp_all
  | _ => rfl

/-- `stringBody` reads the rest of a string literal up to its closing quote. -/
theorem stringBody_contents {contents body : List Char} (h : SpellsContents contents body)
    (opening here : Location) (read more : List Char) :
    stringBody opening here read (body ++ '"' :: more) =
      (.ok (String.ofList (read.reverse ++ contents)), ⟨more, here.past (body ++ ['"'])⟩) := by
  induction h generalizing here read with
  | nil => simp [stringBody]
  | cons hpiece _ ih =>
      rw [List.append_assoc, stringBody_piece hpiece, ih]
      simp [Location.past_append]

theorem scan_stringLiteral {contents : String} {body : List Char}
    (h : SpellsContents contents.toList body) (rest : List Char) (here : Location) :
    scan ⟨'"' :: (body ++ ['"']) ++ rest, here⟩ =
      (.ok ⟨.stringLiteral contents, here⟩, ⟨rest, here.past ('"' :: (body ++ ['"']))⟩) := by
  have hbody := stringBody_contents h here (here.step '"') [] rest
  rw [List.cons_append, List.append_assoc, List.singleton_append,
    scan_of_not_opensLayout (not_opensLayout (by decide) (by decide)), token]
  simp only [if_true, hbody]
  simp [Except.map]

/-- **A spelling that is over is read as its lexeme** by `scan`: what `Spells` it, in front of
what `EndsBefore` it. -/
theorem scan_spells {l : Lexeme} {word : List Char} (h : l.Spells word)
    (hrest : l.EndsBefore rest) (here : Location) :
    scan ⟨word ++ rest, here⟩ = (.ok ⟨l, here⟩, ⟨rest, here.past word⟩) := by
  cases h with
  | number hne hdigits hvalue =>
      exact scan_number hne hdigits hvalue (fun c hc => Bool.eq_false_iff.2 (hrest c hc)) here
  | @identifier name hname =>
      obtain ⟨d, ds, hspelling, hd, hds⟩ := hname.1
      have hscan := scan_word hspelling hd hds (fun c hc => Bool.eq_false_iff.2 (hrest c hc)) here
      rwa [ofWord_of_isName hname] at hscan
  | stringLiteral hbody => exact scan_stringLiteral hbody rest here
  | keyword k =>
      obtain ⟨d, ds, hspelling, hd, hds⟩ := exists_spelling_eq_cons k
      have hscan := scan_word hspelling hd hds (fun c hc => Bool.eq_false_iff.2 (hrest c hc)) here
      rwa [ofWord_spelling] at hscan
  | symbol s => exact scan_symbol s hrest here

/-! ### What is read is a spelling -/

theorem spellsChar_of_unescape? {c d : Char} (h : unescape? c = some d) :
    SpellsChar d ['\\', c] := by
  unfold unescape? at h
  split at h <;> cases h <;> constructor

/-- A character that `stringBody` reads as itself is no backslash. -/
theorem ne_backslash {c : Char} {cs : List Char} (hend : c = '\\' → cs = [] → False)
    (hescape : ∀ d ds, c = '\\' → cs = d :: ds → False) : c ≠ '\\' := by
  rintro rfl
  cases cs with
  | nil => exact hend rfl rfl
  | cons d ds => exact hescape d ds rfl rfl

/-- What `stringBody` reads is a spelling of the contents (`SpellsContents`) and the closing
quote. -/
theorem exists_spellsContents {opening here : Location} {read cs : List Char} {contents : String}
    {c : Cursor} (h : stringBody opening here read cs = (.ok contents, c)) :
    ∃ ds body, SpellsContents ds body ∧ contents = String.ofList (read.reverse ++ ds) ∧
      Moves ⟨cs, here⟩ (body ++ ['"']) c := by
  fun_induction stringBody opening here read cs with
  | case1 | case3 => simp at h
  | case2 here read cs =>
      cases h
      exact ⟨[], [], .nil, by simp, .step ..⟩
  | case4 here read c cs d hd ih =>
      obtain ⟨ds, body, hbody, rfl, hmoves⟩ := ih h
      refine ⟨d :: ds, _, .cons (spellsChar_of_unescape? hd) hbody, by simp, ?_⟩
      exact ((Moves.step ..).trans (.step ..)).trans hmoves
  | case5 => cases h
  | case6 here read c cs hquote hend hescape ih =>
      obtain ⟨ds, body, hbody, rfl, hmoves⟩ := ih h
      have hpiece : SpellsChar c [c] := .itself hquote (ne_backslash hend hescape)
      refine ⟨c :: ds, _, .cons hpiece hbody, by simp, ?_⟩
      exact (Moves.step ..).trans hmoves

theorem spells_ofWord {w : String} {d : Char} {ds : List Char} (hw : w.toList = d :: ds)
    (hd : isWordStart d = true) (hds : ∀ c ∈ ds, isWordPart c = true) :
    (Lexeme.ofWord w).Spells w.toList := by
  unfold Lexeme.ofWord
  split
  · rename_i k hk
    rw [Keyword.eq_spelling_of_ofSpelling? hk]
    exact .keyword k
  · rename_i hnone
    refine .identifier ⟨⟨d, ds, hw, hd, hds⟩, ?_⟩
    rintro k rfl
    rw [Keyword.ofSpelling?_spelling] at hnone
    cases hnone

theorem ofWord_endsBefore {w : String} (h : ∀ c ∈ rest.head?, isWordPart c = false) :
    (Lexeme.ofWord w).EndsBefore rest := by
  intro c hc
  unfold Lexeme.ofWord
  split <;> exact Bool.eq_false_iff.1 (h c hc)

/-- The symbol that `Symbol.at?` finds is the longest one: it does not go on. -/
theorem endsBefore_of_at? {s : Symbol} (h : Symbol.at? (s.spelling.toList ++ rest) = some s)
    (hlayout : ¬ OpensLayout (s.spelling.toList ++ rest)) :
    (Lexeme.symbol s).EndsBefore rest := by
  rintro c hc (⟨s', hs'⟩ | ⟨rfl, hcomment⟩)
  · -- The longer symbol would have been found instead.
    obtain ⟨cs, rfl⟩ : ∃ cs, rest = c :: cs := List.head?_eq_some_iff.1 hc
    have hat : Symbol.at? (s'.spelling.toList ++ cs) = some s' := by
      refine at?_spelling s' ?_
      rintro d - (⟨s'', hs''⟩ | ⟨rfl, -⟩)
      · have hlength := congrArg List.length hs''
        rw [List.length_append, hs', List.length_append] at hlength
        have hpos := spelling_length_pos s
        have hle : s''.spelling.toList.length ≤ 2 := by
          cases s'' <;> decide
        simp only [List.length_singleton] at hlength
        omega
      · have hlength := congrArg List.length hs'
        have hpos := spelling_length_pos s
        simp only [List.length_append, List.length_singleton] at hlength
        have hone : Symbol.slash.spelling.toList.length = 1 := rfl
        omega
    rw [hs', List.append_assoc, List.singleton_append, h] at hat
    obtain rfl := Option.some.inj hat
    simp at hs'
  · obtain ⟨cs, rfl⟩ : ∃ cs, rest = c :: cs := List.head?_eq_some_iff.1 hc
    refine hlayout (.inr ?_)
    rcases hcomment with rfl | rfl
    · exact .inl ⟨cs, rfl⟩
    · exact .inr ⟨cs, rfl⟩

/-- What `Cursor.token` reads is a spelling of the lexeme, which is over unless it stands where
a comment does. -/
theorem token_cases {c c' : Cursor} {t : Token} (h : c.token = (.ok t, c')) :
    (c.rest = [] ∧ t = ⟨.endOfFile, c.location⟩ ∧ c' = c) ∨
    ∃ word, t.location = c.location ∧ t.lexeme.Spells word ∧ c.Moves word c' ∧
      (¬ OpensLayout c.rest → t.lexeme.EndsBefore c'.rest) := by
  obtain ⟨rest, here⟩ := c
  unfold token at h
  split at h
  · rename_i hrest
    cases h
    exact .inl ⟨hrest, rfl, rfl⟩
  · rename_i d cs hrest
    obtain rfl : rest = d :: cs := hrest
    refine .inr ?_
    split at h
    · rename_i hquote
      subst hquote
      simp only [Prod.mk.injEq] at h
      obtain ⟨hcontents, rfl⟩ := h
      cases hbody : stringBody here (here.step '"') [] cs with
      | mk answer c'' =>
      rw [hbody] at hcontents
      cases answer with
      | error e => cases hcontents
      | ok contents =>
          cases hcontents
          obtain ⟨ds, body, hspells, rfl, hmoves⟩ := exists_spellsContents hbody
          have hds : (String.ofList ([].reverse ++ ds)).toList = ds := by simp
          refine ⟨'"' :: (body ++ ['"']), rfl, .stringLiteral (hds.symm ▸ hspells),
            (Moves.step ..).trans hmoves, ?_⟩
          intro _ x _ hx
          exact hx
    · split at h
      · rename_i hdigit
        have hne : (d :: cs).takeWhile Char.isDigit ≠ [] := by simp [hdigit]
        have hrun : (number ⟨d :: cs, here⟩).2 = c' := congrArg Prod.snd h
        obtain ⟨hvalue, rfl⟩ := number_spec (congrArg Prod.fst h)
        rw [snd_number] at hrun
        subst hrun
        refine ⟨_, rfl, .number hne (List.all_eq_true.1 List.all_takeWhile) hvalue, moves_run ..,
          ?_⟩
        intro _ x hx
        exact Bool.eq_false_iff.1 (head?_dropWhile hx)
      · split at h
        · rename_i hword
          have hchars : (String.ofList ((d :: cs).takeWhile isWordPart)).toList =
              d :: cs.takeWhile isWordPart := by
            simp [isWordPart_of_isWordStart hword]
          cases h
          refine ⟨_, rfl, spells_ofWord hchars hword (List.all_eq_true.1 List.all_takeWhile), ?_,
            fun _ => ofWord_endsBefore fun x hx => head?_dropWhile hx⟩
          rw [String.toList_ofList]
          exact moves_run ..
        · split at h
          · rename_i s hs
            cases h
            obtain ⟨more, hmore⟩ : s.spelling.toList <+: d :: cs := spelling_prefix_of_at? hs
            have hs : Symbol.at? (d :: cs) = some s := hs
            rw [← hmore] at hs ⊢
            rw [List.drop_left]
            exact ⟨_, rfl, .symbol s, ⟨rfl, rfl⟩, endsBefore_of_at? hs⟩
          · cases h

/-- **What `scan` reads is the spelling of a token**, behind layout, and it is over
(`EndsBefore`); or the text is over, and nothing but layout was left of it. -/
theorem scan_cases {c c' : Cursor} {t : Token} (h : c.scan = (.ok t, c')) :
    (∃ lead word, IsLayout lead ∧ t.lexeme.Spells word ∧ t.lexeme.EndsBefore c'.rest ∧
      c.Moves (lead ++ word) c' ∧ t.location = c.location.past lead) ∨
    ∃ lead ending, IsLayout lead ∧ IsEnding ending ∧ c.Moves (lead ++ ending) c' ∧
      c'.rest = [] ∧ t = ⟨.endOfFile, c'.location⟩ := by
  unfold scan at h
  split at h
  · cases h
  · rename_i b hb
    obtain ⟨hstop, lead, ending, hlead, hending, hmoves, hover⟩ := skipLayout_spec hb
    rcases token_cases h with ⟨hrest, rfl, rfl⟩ | ⟨word, hlocation, hspells, hword, hends⟩
    · exact .inr ⟨lead, ending, hlead, hending, hmoves, hrest, rfl⟩
    · have hne : b.rest ≠ [] := by
        rw [hword.rest_eq]
        simp [hspells.ne_nil]
      obtain rfl : ending = [] := hover.resolve_right hne
      rw [List.append_nil] at hmoves
      exact .inl ⟨lead, word, hlead, hspells, hends hstop, hmoves.trans hword,
        hlocation.trans hmoves.location_eq⟩

theorem exists_moves_scan {c c' : Cursor} {t : Token} (h : c.scan = (.ok t, c')) :
    ∃ cs, c.Moves cs c' := by
  rcases scan_cases h with ⟨_, _, _, _, _, hmoves, -⟩ | ⟨_, _, _, _, hmoves, -⟩
  · exact ⟨_, hmoves⟩
  · exact ⟨_, hmoves⟩

end Cursor

end SyntaxExplorer
