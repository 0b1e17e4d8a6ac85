import SyntaxExplorer.Explorer.Highlight

/-!
# SyntaxExplorer.Proofs.Explorer.Highlight

**A highlighted line is cut into spans and loses nothing.** The spans of a line, one behind
the other, are the line (`highlight_keeps_text`).

A line can also be read by positions, each span being the slice from where it starts to where
it ends (`Highlight.spansAt?`). A backslash takes the character behind it along, so the search
for a closing quote may come to stand behind the end of the line; the literal ends at the end
then. Reading so gives the same spans and never takes a slice that the line does not have.

What stands in front of a span does not matter for what comes behind it. So the spans of a
line are put together from the spans of its pieces: a word that is over, a character that is
part of no word, a comment.
-/

namespace SyntaxExplorer

/-! ### The text of a line of spans -/

@[simp] theorem Line.text_nil : Line.text [] = [] := rfl

@[simp] theorem Line.text_cons (s : Span) (line : Line) :
    Line.text (s :: line) = s.content ++ Line.text line := rfl

@[simp] theorem Line.text_append (line line' : Line) :
    Line.text (line ++ line') = Line.text line ++ Line.text line' :=
  List.flatMap_append

namespace Highlight

/-- `pushWord` loses no character of a word. -/
@[simp] theorem text_pushWord (word : List Char) (style : Style) (before : List Span) :
    Line.text (pushWord word style before).reverse = Line.text before.reverse ++ word.reverse := by
  unfold pushWord
  split
  · simp_all
  · simp

@[simp] theorem text_pushStyledWord (word : List Char) (isCalled : Bool) (before : List Span) :
    Line.text (pushStyledWord word isCalled before).reverse =
      Line.text before.reverse ++ word.reverse :=
  text_pushWord ..

/-- **The text of `spansFrom` is the text that was read and the text that follows.** -/
theorem text_spansFrom (before : List Span) (word cs : List Char) :
    Line.text (spansFrom before word cs) = Line.text before.reverse ++ (word.reverse ++ cs) := by
  fun_induction spansFrom before word cs with
  | case1 before word => simp
  | case2 before word cs => simp
  | case3 before word cs literal ih =>
      have hliteral := literalFrom_append ['"'] cs
      simp [ih, literal, hliteral]
  | case4 before word c cs _ _ _ ih => simp [ih]
  | case5 before word c cs _ _ _ ih => simp [ih]

/-- In `spansFrom`, a character that opens neither a comment nor a literal goes on with the
word or ends it. -/
theorem spansFrom_cons {c : Char} {cs : List Char} (hcomment : ¬ (c = '/' ∧ cs.head? = some '/'))
    (hquote : c ≠ '"') (before : List Span) (word : List Char) :
    spansFrom before word (c :: cs) =
      if isWordChar c then spansFrom before (c :: word) cs
      else spansFrom (⟨[c], charStyle c⟩ :: pushStyledWord word (c == '(') before) [] cs := by
  rw [spansFrom]
  · rintro more rfl rfl
    exact hcomment ⟨rfl, rfl⟩
  · exact hquote

/-! ### The spans of pieces -/

theorem pushWord_append (word : List Char) (style : Style) (before front : List Span) :
    pushWord word style (before ++ front) = pushWord word style before ++ front := by
  unfold pushWord
  split <;> rfl

theorem pushStyledWord_append (word : List Char) (isCalled : Bool) (before front : List Span) :
    pushStyledWord word isCalled (before ++ front) = pushStyledWord word isCalled before ++ front :=
  pushWord_append ..

/-- The spans that `spansFrom` has read before stay in front. -/
theorem spansFrom_append (before front : List Span) (word cs : List Char) :
    spansFrom (before ++ front) word cs = front.reverse ++ spansFrom before word cs := by
  fun_induction spansFrom before word cs with
  | case1 before word => simp [spansFrom, pushStyledWord_append]
  | case2 before word cs => simp [spansFrom, pushWord_append]
  | case3 before word cs literal ih =>
      rw [spansFrom, pushWord_append, ← List.cons_append, ih]
  | case4 before word c cs hcomment hquote hword ih =>
      rw [spansFrom, if_pos hword, ih]
      · exact hcomment
      · exact hquote
  | case5 before word c cs hcomment hquote hword ih =>
      rw [spansFrom, if_neg hword, pushStyledWord_append, ← List.cons_append, ih]
      · exact hcomment
      · exact hquote

/-- A string literal or a comment follows, in front of which `pushWord` gives a word no style. -/
def CutsWord (cs : List Char) : Prop := cs.head? = some '"' ∨ ['/', '/'] <+: cs

instance (cs : List Char) : Decidable (CutsWord cs) :=
  inferInstanceAs (Decidable (cs.head? = some '"' ∨ ['/', '/'] <+: cs))

/-- The style of a word in front of `cs`. -/
def styleBefore (word cs : List Char) : Style :=
  if CutsWord cs then .plain else wordStyle (String.ofList word) (cs.head? == some '(')

/-- No word goes on with the text: its first character, if it has one, is not `isWordChar`. -/
def EndsWord (cs : List Char) : Prop := ∀ c ∈ cs.head?, isWordChar c = false

/-- `spansFrom` reads a word as far as it goes. -/
theorem spansFrom_word {word : List Char} (h : ∀ c ∈ word, isWordChar c = true)
    (read cs : List Char) :
    spansFrom [] read (word ++ cs) = spansFrom [] (word.reverse ++ read) cs := by
  induction word generalizing read with
  | nil => rfl
  | cons c word ih =>
      rw [List.forall_mem_cons] at h
      have hcomment : ¬ (c = '/' ∧ (word ++ cs).head? = some '/') := by
        rintro ⟨rfl, -⟩
        cases h.1
      have hquote : c ≠ '"' := by
        rintro rfl
        cases h.1
      rw [List.cons_append, spansFrom_cons hcomment hquote, if_pos h.1, ih h.2]
      simp

/-- Where the text `EndsWord`, `spansFrom` makes the word a span and reads what is behind it on
its own. -/
theorem spansFrom_of_endsWord {read cs : List Char} (hread : read ≠ []) (h : EndsWord cs) :
    spansFrom [] read cs = ⟨read.reverse, styleBefore read.reverse cs⟩ :: spansFrom [] [] cs := by
  have hpush : ∀ style before, pushWord read style before = ⟨read.reverse, style⟩ :: before := by
    simp [pushWord, hread]
  have hfront : ∀ (style : Style) (ds : List Char) (spans : List Span),
      spansFrom (spans ++ [⟨read.reverse, style⟩]) [] ds =
        ⟨read.reverse, style⟩ :: spansFrom spans [] ds :=
    fun style ds spans => spansFrom_append spans [⟨read.reverse, style⟩] [] ds
  cases cs with
  | nil => simp [spansFrom, pushStyledWord, pushWord, hread, styleBefore, CutsWord]
  | cons c cs =>
      by_cases hcomment : c = '/' ∧ cs.head? = some '/'
      · obtain ⟨rfl, hslash⟩ := hcomment
        obtain ⟨cs, rfl⟩ := List.head?_eq_some_iff.1 hslash
        have hcuts : CutsWord ('/' :: '/' :: cs) := .inr (List.prefix_append ['/', '/'] cs)
        simp [spansFrom, pushWord, hread, styleBefore, hcuts]
      · by_cases hquote : c = '"'
        · subst hquote
          have hcuts : CutsWord ('"' :: cs) := .inl rfl
          rw [spansFrom, spansFrom, styleBefore, if_pos hcuts, hpush]
          exact hfront .plain _ [_]
        · have hcuts : ¬ CutsWord (c :: cs) := by
            rintro (hhead | ⟨more, hmore⟩)
            · exact hquote (Option.some.inj hhead)
            · obtain ⟨rfl, rfl⟩ := List.cons.inj hmore
              exact hcomment ⟨rfl, rfl⟩
          rw [spansFrom_cons hcomment hquote, spansFrom_cons hcomment hquote, h c rfl, styleBefore,
            if_neg hcuts, if_neg Bool.false_ne_true, if_neg Bool.false_ne_true, pushStyledWord,
            hpush]
          exact hfront _ cs [_]

end Highlight

open Highlight

theorem text_highlight (line : List Char) : (highlight line).text = line := by
  simp [highlight, text_spansFrom]

@[simp] theorem highlight_nil : highlight [] = [] := by
  rw [highlight, spansFrom]
  rfl

/-- Behind one span, highlighting starts anew. -/
theorem spansFrom_singleton (s : Span) (cs : List Char) :
    spansFrom [s] [] cs = s :: highlight cs :=
  spansFrom_append [] [s] [] cs

/-- `highlight` makes a word a span, where the text behind it `EndsWord`. -/
theorem highlight_word {word cs : List Char} (hne : word ≠ [])
    (hword : ∀ c ∈ word, isWordChar c = true) (hcs : EndsWord cs) :
    highlight (word ++ cs) = ⟨word, styleBefore word cs⟩ :: highlight cs := by
  rw [highlight, spansFrom_word hword, spansFrom_of_endsWord (by simpa using hne) hcs]
  simp [highlight]

/-- `highlight` makes a character that is no part of a word and opens nothing a span. -/
theorem highlight_char {c : Char} {cs : List Char} (hword : isWordChar c = false)
    (hcomment : ¬ (c = '/' ∧ cs.head? = some '/')) (hquote : c ≠ '"') :
    highlight (c :: cs) = ⟨[c], charStyle c⟩ :: highlight cs := by
  rw [highlight, spansFrom_cons hcomment hquote, hword]
  exact spansFrom_singleton ⟨[c], charStyle c⟩ cs

/-- `highlight` makes a comment a span, up to the end of the line. -/
theorem highlight_comment (cs : List Char) :
    highlight ('/' :: '/' :: cs) = [⟨'/' :: '/' :: cs, .ofColor Palette.comment⟩] := by
  rw [highlight, spansFrom]
  rfl

namespace Highlight

/-! ### Reading by positions -/

/-- The characters of a line from one position up to but not including another one, if
these are in order and the line reaches so far. -/
def slice? (chars : List Char) (first last : Nat) : Option (List Char) :=
  if first ≤ last ∧ last ≤ chars.length then some (chars.extract first last) else none

/-- From a position on, that of the first quote that no backslash escapes. Without one
it is the end of the line, or the position behind it if the last character is a backslash. -/
def quoteFrom (chars : List Char) (i : Nat) : Nat :=
  if h : i < chars.length then
    if chars[i] = '"' then i
    else if chars[i] = '\\' then quoteFrom chars (i + 2)
    else quoteFrom chars (i + 1)
  else i
termination_by chars.length - i

theorem le_quoteFrom (chars : List Char) (i : Nat) : i ≤ quoteFrom chars i := by
  fun_induction quoteFrom chars i <;> omega

/-- The position behind the string literal that goes on at a position: behind the quote at
`quoteFrom`, where there is one. -/
def literalEnd (chars : List Char) (i : Nat) : Nat := min (quoteFrom chars i + 1) chars.length

theorem lt_literalEnd {chars : List Char} {i : Nat} (h : i < chars.length) :
    i < literalEnd chars (i + 1) := by
  have hle := le_quoteFrom chars (i + 1)
  unfold literalEnd
  omega

/-- Read a line on at a position, behind the spans `before` and the open word `word`. There is
no answer if a slice is taken that the line does not have. -/
def spansAt? (chars : List Char) (before : List Span) (word : List Char) (i : Nat) :
    Option Line :=
  if h : i < chars.length then
    if chars[i] = '/' ∧ chars[i + 1]? = some '/' then
      (slice? chars i chars.length).map fun rest =>
        (⟨rest, .ofColor Palette.comment⟩ :: pushWord word .plain before).reverse
    else if chars[i] = '"' then
      (slice? chars i (literalEnd chars (i + 1))).bind fun literal =>
        spansAt? chars
          (⟨literal, .ofColor Palette.stringLiteral⟩ :: pushWord word .plain before) []
          (literalEnd chars (i + 1))
    else if isWordChar chars[i] then spansAt? chars before (chars[i] :: word) (i + 1)
    else spansAt? chars
      (⟨[chars[i]], charStyle chars[i]⟩ :: pushStyledWord word (chars[i] == '(') before) [] (i + 1)
  else some (pushStyledWord word false before).reverse
termination_by chars.length - i
decreasing_by
  · have := lt_literalEnd h
    omega
  · omega
  · omega

theorem slice?_of_le {chars : List Char} {first last : Nat} (h : first ≤ last)
    (hlast : last ≤ chars.length) : slice? chars first last = some (chars.extract first last) := by
  rw [slice?, if_pos ⟨h, hlast⟩]

theorem extract_eq_cons {chars : List Char} {i last : Nat} (h : i < chars.length)
    (hlast : i < last) : chars.extract i last = chars[i] :: chars.extract (i + 1) last := by
  obtain ⟨k, rfl⟩ := Nat.exists_eq_add_of_lt hlast
  have htake : i + k + 1 - i = k + 1 := by omega
  have hrest : i + k + 1 - (i + 1) = k := by omega
  rw [List.extract_eq_take_drop, List.extract_eq_take_drop, htake, hrest,
    List.drop_eq_getElem_cons h, List.take_succ_cons]

/-- A literal that `literalFrom` reads ends at `literalEnd`. -/
theorem literalFrom_drop {chars : List Char} {i : Nat} (read : List Char) (h : i ≤ chars.length) :
    literalFrom read (chars.drop i) =
      (read.reverse ++ chars.extract i (literalEnd chars i), chars.drop (literalEnd chars i)) := by
  unfold literalEnd
  fun_induction quoteFrom chars i generalizing read with
  | case1 i hi hquote =>
      have hlast : min (i + 1) chars.length = i + 1 := by omega
      rw [hlast, extract_eq_cons hi (by omega), List.drop_eq_getElem_cons hi, hquote, literalFrom]
      simp [List.extract_eq_take_drop]
  | case2 i hi _ hslash ih =>
      have hle := le_quoteFrom chars (i + 2)
      rw [List.drop_eq_getElem_cons hi, extract_eq_cons hi (by omega), hslash]
      by_cases hnext : i + 1 < chars.length
      · rw [List.drop_eq_getElem_cons hnext, extract_eq_cons hnext (by omega), literalFrom,
          ih _ hnext]
        simp
      · -- Nothing is behind the backslash, and the search stands one position further.
        have hnil : chars.drop (i + 1) = [] := List.drop_eq_nil_of_le (by omega)
        have hend : chars.drop (min (quoteFrom chars (i + 2) + 1) chars.length) = [] :=
          List.drop_eq_nil_of_le (by omega)
        rw [hnil, hend, List.extract_eq_take_drop, hnil]
        simp [literalFrom]
  | case3 i hi hquote hslash ih =>
      have hle := le_quoteFrom chars (i + 1)
      rw [extract_eq_cons hi (by omega), List.drop_eq_getElem_cons hi, literalFrom, ih _ hi]
      · simp
      · exact hquote
      · rintro c cs hc
        exact absurd hc hslash
  | case4 i hi =>
      have hnil : chars.drop i = [] := List.drop_eq_nil_of_le (by omega)
      have hend : chars.drop (min (i + 1) chars.length) = [] := List.drop_eq_nil_of_le (by omega)
      rw [hnil, hend, literalFrom, List.extract_eq_take_drop, hnil]
      simp

/-- `spansAt?` is `spansFrom`: no `slice?` is taken that the line does not have. -/
theorem spansAt?_eq {chars : List Char} {i : Nat} (before : List Span) (word : List Char)
    (h : i ≤ chars.length) :
    spansAt? chars before word i = some (spansFrom before word (chars.drop i)) := by
  fun_induction spansAt? chars before word i with
  | case1 before word i hi hcomment =>
      obtain ⟨hslash, hnext⟩ := hcomment
      obtain ⟨hlt, hnext⟩ := List.getElem?_eq_some_iff.1 hnext
      have hrest : chars.extract i chars.length = '/' :: '/' :: chars.drop (i + 2) := by
        rw [extract_eq_cons hi hi, extract_eq_cons hlt hlt, hslash, hnext,
          List.extract_eq_take_drop, List.take_of_length_le (by simp)]
      rw [slice?_of_le h (Nat.le_refl _), Option.map_some, List.drop_eq_getElem_cons hi,
        List.drop_eq_getElem_cons hlt, hslash, hnext, spansFrom, hrest]
  | case2 before word i hi hcomment hquote ih =>
      have hlt := lt_literalEnd hi
      have hle : literalEnd chars (i + 1) ≤ chars.length := Nat.min_le_right _ _
      have hliteral := literalFrom_drop ['"'] hi
      rw [slice?_of_le (Nat.le_of_lt hlt) hle, Option.bind_some, ih _ hle,
        List.drop_eq_getElem_cons hi, extract_eq_cons hi hlt, hquote, spansFrom]
      simp only [hliteral, List.reverse_singleton, List.singleton_append]
  | case3 before word i hi hcomment hquote hword ih =>
      rw [ih hi, List.drop_eq_getElem_cons hi, spansFrom_cons (by simpa using hcomment) hquote,
        if_pos hword]
  | case4 before word i hi hcomment hquote hword ih =>
      rw [ih hi, List.drop_eq_getElem_cons hi, spansFrom_cons (by simpa using hcomment) hquote,
        if_neg hword]
  | case5 before word i hi =>
      have hnil : chars.drop i = [] := List.drop_eq_nil_of_le (by omega)
      rw [hnil, spansFrom]

end Highlight

/-- **Highlighting keeps the text of a line.** Read by positions, as `spansAt?` does, every
line comes to its end without a slice that it does not have, and the spans of `highlight`, one
behind the other, are the line. -/
theorem highlight_keeps_text (chars : List Char) :
    Highlight.spansAt? chars [] [] 0 = some (highlight chars) ∧ (highlight chars).text = chars :=
  ⟨Highlight.spansAt?_eq [] [] (Nat.zero_le _), text_highlight chars⟩

end SyntaxExplorer
