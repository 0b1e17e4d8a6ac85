import SyntaxExplorer.Scanner.Layout
import SyntaxExplorer.Token.Source

/-!
# SyntaxExplorer.Scanner

**Reading tokens from text.** `Cursor.scan` skips layout and reads one lexeme:
the longest word, the longest run of digits, a string literal up to its first
unescaped quote, or a symbol, where a symbol of two characters goes before the
one-character symbol it starts with.

Scanning can go on after an error. The cursor then stands behind the character,
behind the whole run of digits, behind the escaped character (so inside the
string), or at the end of the text for a string or a comment that is never
closed. In every case it has moved (`length_scan_lt`), and only the end of the
text is handed out without moving, so a cursor is a `TokenSource`.
-/

namespace SyntaxExplorer

/-- A word starts with a letter or an underscore. -/
def isWordStart (c : Char) : Bool := c.isAlpha || c == '_'

/-- A word goes on with letters, digits and underscores. -/
def isWordPart (c : Char) : Bool := c.isAlphanum || c == '_'

/-- The lexeme that a word denotes: a reserved word, or else an identifier. -/
def Lexeme.ofWord (word : String) : Lexeme :=
  match Keyword.ofSpelling? word with
  | some k => .keyword k
  | none => .identifier word

/-- One more than the greatest value of a number. -/
def numberBound : Nat := Nat.pow 2 63

/-- The longest symbol that the text starts with. -/
def Symbol.at? : List Char → Option Symbol
  | '+' :: _ => some .plus
  | '-' :: _ => some .minus
  | '*' :: _ => some .star
  | '/' :: _ => some .slash
  | '%' :: _ => some .percent
  | '=' :: '=' :: _ => some .equal
  | '=' :: _ => some .assign
  | '!' :: '=' :: _ => some .notEqual
  | '!' :: _ => some .bang
  | '<' :: '=' :: _ => some .lessEqual
  | '<' :: _ => some .less
  | '>' :: '=' :: _ => some .greaterEqual
  | '>' :: _ => some .greater
  | '&' :: '&' :: _ => some .andAnd
  | '&' :: _ => some .ampersand
  | '|' :: '|' :: _ => some .orOr
  | '(' :: _ => some .openParen
  | ')' :: _ => some .closeParen
  | '{' :: _ => some .openBrace
  | '}' :: _ => some .closeBrace
  | ';' :: _ => some .semicolon
  | ',' :: _ => some .comma
  | _ => none

/-- The character that a backslash and `c` stand for in a string literal. -/
def unescape? (c : Char) : Option Char :=
  match c with
  | 'n' => some '\n'
  | 't' => some '\t'
  | '\\' => some '\\'
  | '"' => some '"'
  | _ => none

namespace Cursor

/-- Read the rest of a string literal that was opened at `opening`, up to its
closing quote. The characters read so far are `read`, the last one first. -/
def stringBody (opening here : Location) (read : List Char) :
    List Char → Except ScanError String × Cursor
  | [] => (.error ⟨.unterminatedString, opening⟩, ⟨[], here⟩)
  | '"' :: cs => (.ok (String.ofList read.reverse), ⟨cs, here.step '"'⟩)
  | ['\\'] => (.error ⟨.endInsideString, here.step '\\'⟩, ⟨[], here.step '\\'⟩)
  | '\\' :: c :: cs =>
    match unescape? c with
    | some d => stringBody opening ((here.step '\\').step c) (d :: read) cs
    | none =>
      (.error ⟨.unknownEscape c, (here.step '\\').step c⟩, ⟨cs, (here.step '\\').step c⟩)
  | c :: cs => stringBody opening (here.step c) (c :: read) cs

/-- Read the longest run of digits. Its value counts, not its length. -/
def number (c : Cursor) : Except ScanError Token × Cursor :=
  let (digits, c') := c.run Char.isDigit
  let value := Nat.ofDigitChars 10 digits 0
  if value < numberBound then (.ok ⟨.number value, c.location⟩, c')
  else (.error ⟨.integerOutOfRange (String.ofList digits), c.location⟩, c')

/-- Read the longest word. -/
def word (c : Cursor) : Token × Cursor :=
  let (chars, c') := c.run isWordPart
  (⟨.ofWord (String.ofList chars), c.location⟩, c')

/-- Read the token that starts at the cursor. -/
def token (c : Cursor) : Except ScanError Token × Cursor :=
  match c.rest with
  | [] => (.ok ⟨.endOfFile, c.location⟩, c)
  | d :: cs =>
    if d = '"' then
      let (contents, c') := stringBody c.location (c.location.step d) [] cs
      (contents.map fun s => ⟨.stringLiteral s, c.location⟩, c')
    else if d.isDigit then c.number
    else if isWordStart d then
      let (t, c') := c.word
      (.ok t, c')
    else
      match Symbol.at? c.rest with
      | some s =>
        let spelling := s.spelling.toList
        (.ok ⟨.symbol s, c.location⟩,
          behind c.location spelling (c.rest.drop spelling.length))
      | none => (.error ⟨.unexpectedCharacter d, c.location⟩, ⟨cs, c.location.step d⟩)

/-- The next token of the text, or why there is none. -/
def scan (c : Cursor) : Except ScanError Token × Cursor :=
  match c.skipLayout with
  | .error opening => (.error ⟨.unterminatedComment, opening⟩, c.atEnd)
  | .ok c => c.token

/-! ### Scanning moves forward -/

theorem length_stringBody_le (opening here : Location) (read cs : List Char) :
    (stringBody opening here read cs).2.rest.length ≤ cs.length := by
  fun_induction stringBody opening here read cs with
  | case1 | case3 => simp
  | case2 => simp
  | case4 here read c cs d _ ih =>
    simp only [List.length_cons]
    omega
  | case5 here read c cs _ =>
    simp only [List.length_cons]
    omega
  | case6 here read c cs _ _ _ ih =>
    simp only [List.length_cons]
    omega

/-- A run whose first character has the property leaves a shorter text. -/
theorem length_run_lt {p : Char → Bool} {c : Cursor} {d : Char} {cs : List Char}
    (hc : c.rest = d :: cs) (hd : p d = true) :
    (c.run p).2.rest.length < c.rest.length := by
  have h := (List.dropWhile_suffix (l := cs) p).length_le
  simp only [run, behind, hc, List.dropWhile_cons, hd, if_true, List.length_cons]
  omega

theorem spelling_length_pos (s : Symbol) : 0 < s.spelling.toList.length := by
  cases s <;> decide

theorem isWordPart_of_isWordStart {d : Char} (h : isWordStart d = true) :
    isWordPart d = true := by
  simp only [isWordStart, isWordPart, Char.isAlphanum, Bool.or_eq_true] at h ⊢
  exact h.imp_left Or.inl

theorem snd_number (c : Cursor) : c.number.2 = (c.run Char.isDigit).2 := by
  simp only [number]
  split <;> rfl

/-- Reading a token from a text that is not used up moves forward. -/
theorem length_token_lt {c : Cursor} (h : c.rest ≠ []) :
    c.token.2.rest.length < c.rest.length := by
  obtain ⟨d, cs, hc⟩ := List.exists_cons_of_ne_nil h
  unfold token
  split
  · contradiction
  · rename_i d' cs' hc'
    obtain ⟨rfl, rfl⟩ := List.cons.inj (hc.symm.trans hc')
    by_cases hq : d = '"'
    · simp only [hq, if_true, hc, List.length_cons]
      exact Nat.lt_succ_of_le (length_stringBody_le ..)
    · by_cases hn : d.isDigit = true
      · simp only [hq, hn, if_true, if_false, snd_number]
        exact length_run_lt hc hn
      · by_cases hw : isWordStart d = true
        · simp only [hq, hn, hw, if_true, if_false, Bool.false_eq_true]
          exact length_run_lt hc (isWordPart_of_isWordStart hw)
        · simp only [hq, hn, hw, if_false, Bool.false_eq_true]
          split
          · rename_i s _
            have := spelling_length_pos s
            simp only [behind, List.length_drop, hc, List.length_cons]
            omega
          · simp [hc]

/-- At the end of the text, the end of the text is read again and again. -/
theorem token_of_rest_nil {c : Cursor} (h : c.rest = []) :
    c.token = (.ok ⟨.endOfFile, c.location⟩, c) := by
  unfold token
  split
  · rfl
  · simp_all

/-- Scanning moves forward, unless nothing but layout is left. -/
theorem length_scan_lt {c : Cursor} {t : Token} {c' : Cursor}
    (h : c.scan = (.ok t, c')) :
    c'.rest.length + (if t.isEnd then 0 else 1) ≤ c.rest.length := by
  unfold scan at h
  split at h
  · simp at h
  · rename_i b hb
    have hle := length_skipLayout_le hb
    by_cases hn : b.rest = []
    · rw [token_of_rest_nil hn] at h
      simp only [Prod.mk.injEq, Except.ok.injEq] at h
      simpa [← h.1, ← h.2, Token.isEnd] using hle
    · have hlt := length_token_lt hn
      rw [h] at hlt
      split <;> simp only at hlt ⊢ <;> omega

instance : TokenSource Cursor where
  pull c := c.scan
  remaining c := c.rest.length
  remaining_pull h := length_scan_lt h

end Cursor

end SyntaxExplorer
