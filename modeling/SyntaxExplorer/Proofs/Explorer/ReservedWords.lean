import SyntaxExplorer.Proofs.Explorer.LexemeSpans
import SyntaxExplorer.Proofs.Scanner.Coordinates
import SyntaxExplorer.Proofs.Text.OneLine

/-!
# SyntaxExplorer.Proofs.Explorer.ReservedWords

**Highlighting and scanning agree about reserved words.** A line is highlighted without being
scanned, by its words alone. But where scanning finds no error, and no block comment, the two
see the same words, save that a number and a word right behind it are one word in highlighting
and two tokens in scanning. So the reserved words that are read on a line are shown in their
styles, and nothing else is (`reserved_words_are_highlighted`).

The tokens are followed one by one. In front of the next one the cursor stands behind a text
whose words are over, and behind the digits of a number, if one was read last (`StandsAt`).
-/

namespace SyntaxExplorer

open Highlight Cursor

namespace Cursor

/-! ### Lines without block comments -/

/-- Behind some tokens of the text and some layout, a block comment opens. -/
def HasBlockComment (c : Cursor) : Prop :=
  ∃ n lead more, IsLayout lead ∧ (TokenSource.pulls n c).2.rest = lead ++ '/' :: '*' :: more

variable {c c' : Cursor} {lead more : List Char}

theorem HasBlockComment.of_pull (h : (TokenSource.pull c).2.HasBlockComment) :
    c.HasBlockComment := by
  obtain ⟨n, lead, more, hlead, hrest⟩ := h
  exact ⟨n + 1, lead, more, hlead, hrest⟩

/-- On a line without block comments, layout is made of blanks. -/
theorem IsLayout.isBlank (h : IsLayout lead) (hline : '\n' ∉ lead)
    (hblock : ∀ front body, IsLayout front → lead ≠ front ++ '/' :: '*' :: body) :
    ∀ c ∈ lead, isBlank c = true := by
  induction h with
  | nil => simp
  | @blank c cs hc _ ih =>
      rw [List.mem_cons, not_or] at hline
      refine List.forall_mem_cons.2 ⟨hc, ih hline.2 ?_⟩
      rintro front body hfront rfl
      exact hblock (c :: front) body (.blank hc hfront) rfl
  | line => simp at hline
  | block => exact absurd rfl (hblock [] _ .nil)

end Cursor

/-! ### Words are the same -/

/-- A word goes on with the text if and only if a highlighted word does. -/
def ReadsAlike (cs : List Char) : Prop := ∀ c ∈ cs.head?, isWordChar c = isWordPart c

theorem ReadsAlike.endsWord {cs : List Char} (h : ReadsAlike cs)
    (hcs : ∀ c ∈ cs.head?, ¬ isWordPart c = true) : EndsWord cs := by
  intro c hc
  rw [h c hc]
  exact Bool.eq_false_iff.2 (hcs c hc)

theorem endsWord_cons {c : Char} (h : isWordChar c = false) (cs : List Char) :
    EndsWord (c :: cs) := by
  rintro d hd
  obtain rfl := Option.some.inj hd
  exact h

theorem readsAlike_cons {c : Char} (h : isWordChar c = isWordPart c) (cs : List Char) :
    ReadsAlike (c :: cs) := by
  rintro d hd
  obtain rfl := Option.some.inj hd
  exact h

theorem readsAlike_of_isWordPart {c : Char} (h : isWordPart c = true) (cs : List Char) :
    ReadsAlike (c :: cs) :=
  readsAlike_cons (by rw [h, isWordChar_of_isWordPart h]) cs

theorem readsAlike_of_spells {l : Lexeme} {word : List Char} (h : l.Spells word)
    (rest : List Char) : ReadsAlike (word ++ rest) := by
  cases h with
  | number hne hdigits =>
      obtain ⟨d, ds, rfl⟩ := List.exists_cons_of_ne_nil hne
      have hdigit := hdigits d List.mem_cons_self
      exact readsAlike_of_isWordPart (isWordPart_of_isDigit hdigit) _
  | identifier hname =>
      obtain ⟨⟨d, ds, hspelling, hd, -⟩, -⟩ := hname
      rw [hspelling]
      exact readsAlike_of_isWordPart (isWordPart_of_isWordStart hd) _
  | stringLiteral => exact readsAlike_cons (by decide) _
  | keyword k =>
      obtain ⟨d, ds, hspelling, hd, -⟩ := exists_spelling_eq_cons k
      rw [hspelling]
      exact readsAlike_of_isWordPart (isWordPart_of_isWordStart hd) _
  | symbol s => cases s <;> exact readsAlike_cons (by decide) _

/-- Where `scan` finds a token, the text behind it `ReadsAlike`. -/
theorem readsAlike_of_scan {c c' : Cursor} {t : Token} (h : c.scan = (.ok t, c')) :
    ReadsAlike c.rest := by
  have hlayout : ∀ {lead more}, IsLayout lead → ReadsAlike more →
      ReadsAlike (lead ++ more) := by
    intro lead more hlead hmore
    cases hlead with
    | nil => exact hmore
    | blank hc =>
        have hmark := isMark_of_isBlank hc
        exact readsAlike_cons (by rw [hmark.1, isWordPart_of_isBlank hc]) _
    | line | block => exact readsAlike_cons (by decide) _
  rcases scan_cases h with ⟨lead, word, hlead, hspells, -, hmoves, -⟩ |
    ⟨lead, ending, hlead, hending, hmoves, hrest, -⟩
  · rw [hmoves.rest_eq, List.append_assoc]
    exact hlayout hlead (readsAlike_of_spells hspells _)
  · rw [hmoves.rest_eq, hrest, List.append_nil]
    refine hlayout hlead ?_
    obtain rfl | ⟨body, -, rfl⟩ := hending
    · simp [ReadsAlike]
    · exact readsAlike_cons (by decide) _

theorem readsAlike_of_drain {c : Cursor} (h : (TokenSource.drain c).error = none) :
    ReadsAlike c.rest := by
  cases hscan : c.scan with
  | mk answer c' =>
  cases answer with
  | ok t => exact readsAlike_of_scan hscan
  | error e =>
      rw [TokenSource.drain_of_error hscan] at h
      cases h

/-! ### Following the scanner -/

/-- The cursor stands behind `front` and the digits of a number, if there is one. What
is in front of the number is over, and so is the number. -/
structure StandsAt (front digits : List Char) (c : Cursor) : Prop where
  location : c.location = Location.start.past (front ++ digits)
  isDigit : ∀ d ∈ digits, d.isDigit = true
  ended : digits ≠ [] → ∀ d ∈ c.rest.head?, ¬ d.isDigit = true
  fresh : front = [] ∨ Apart front (digits ++ c.rest)

variable {front digits word : List Char} {c c' : Cursor} {l : Lexeme} {ts : List Token}

/-- What is `Apart` from a word or a number that follows does not end with a digit. -/
theorem not_endsWithDigit {d : Char} {cs : List Char} (hd : isWordPart d = true)
    (h : front = [] ∨ Apart front (d :: cs)) : ¬ EndsWithDigit front := by
  rintro ⟨x, hx, hdigit⟩
  rcases h with rfl | ⟨y, hy, hpart⟩ | hstop
  · cases hx
  · obtain rfl := Option.some.inj (hx.symm.trans hy)
    simp [isWordPart_of_isDigit hdigit] at hpart
  · simp [hstop d rfl] at hd

/-- Behind a lexeme that is no number, the cursor `StandsAt` a place with no digits to show. -/
theorem standsAt_behind (hword : l.Spells word) (hends : l.EndsBefore c'.rest)
    (hlocation : c'.location = Location.start.past (front ++ word)) (hnumber : ∀ v, l ≠ .number v) :
    StandsAt (front ++ word) [] c' where
  location := by simpa using hlocation
  isDigit := by simp
  ended := by simp
  fresh := .inr ((apart_of_spells hword hends hnumber).imp_left fun h => h.append front)

theorem ofSpelling?_of_isName {name : String} (h : IsName name) :
    Keyword.ofSpelling? name = none := by
  rw [Option.eq_none_iff_forall_ne_some]
  exact fun k hk => h.2 k (Keyword.eq_spelling_of_ofSpelling? hk)

/-- A lexeme that stands behind no number `ShowsKeywords`, if what is behind it does. -/
theorem showsKeywords_lexeme (hword : l.Spells word) (hends : l.EndsBefore c'.rest)
    (hlocation : c'.location = Location.start.past (front ++ word))
    (hfresh : front = [] ∨ Apart front (word ++ c'.rest)) (hrest : ReadsAlike c'.rest)
    (ih : ∀ front digits, StandsAt front digits c' →
      ShowsKeywords front (digits ++ c'.rest) ts) :
    ShowsKeywords front (word ++ c'.rest) (⟨l, Location.start.past front⟩ :: ts) := by
  have hbehind : (∀ v, l ≠ .number v) → ShowsKeywords (front ++ word) c'.rest ts :=
    fun hnumber => ih _ [] (standsAt_behind hword hends hlocation hnumber)
  cases hword with
  | number hne hdigits =>
      exact (ih front word ⟨hlocation, hdigits, fun _ => hends, hfresh⟩).other (by simp)
  | @identifier name hname =>
      have hparts := isWordPart_of_isName hname
      have hspans := highlight_word (Lexeme.Spells.identifier hname).ne_nil
        (fun c hc => isWordChar_of_isWordPart (hparts c hc)) (hrest.endsWord hends)
      have hnone : Keyword.ofSpelling? (String.ofList name.toList) = none := by
        rw [String.ofList_toList, ofSpelling?_of_isName hname]
      refine ShowsKeywords.append_plain [_] [_] hspans (by simp) ?_ (by simp)
        (hbehind (by simp))
      rw [List.forall_mem_singleton]
      exact not_isReserved_styleBefore hnone _
  | @stringLiteral contents body hbody =>
      refine ShowsKeywords.append_plain [_] [_]
        (highlight_literal hbody c'.rest) (by simp) ?_ (by simp) (hbehind (by simp))
      rw [List.forall_mem_singleton]
      show ¬ (Style.ofColor Palette.stringLiteral).IsReserved
      decide
  | keyword k =>
      obtain ⟨d, ds, hspelling, hd, -⟩ := exists_spelling_eq_cons k
      rw [hspelling] at hfresh
      exact ShowsKeywords.keyword k
        (not_endsWithDigit (isWordPart_of_isWordStart hd) hfresh)
        (hrest.endsWord hends) (hbehind (by simp))
  | symbol s =>
      exact ShowsKeywords.append_plain _ [_] (highlight_symbol s hends) (text_marks _)
        (not_isReserved_of_mem_marks _) (by simp) (hbehind (by simp))

/-- A word right behind a number is one word with it: `ShowsKeywords` holds from the digits on,
if it does behind the word. -/
theorem showsKeywords_glued (hne : digits ≠ []) (hstands : StandsAt front digits c)
    (hc : c.rest = word ++ c'.rest) (hword : l.Spells word) (hends : l.EndsBefore c'.rest)
    (hgoes : ¬ EndsWord c.rest)
    (hlocation : c'.location = Location.start.past (front ++ digits ++ word))
    (hrest : ReadsAlike c'.rest)
    (ih : ∀ front digits, StandsAt front digits c' →
      ShowsKeywords front (digits ++ c'.rest) ts) :
    ShowsKeywords front (digits ++ c.rest)
      (⟨l, Location.start.past (front ++ digits)⟩ :: ts) := by
  have hbehind : (∀ v, l ≠ .number v) → ShowsKeywords (front ++ digits ++ word) c'.rest ts :=
    fun hnumber => ih _ [] (standsAt_behind hword hends hlocation hnumber)
  rw [hc] at hgoes ⊢
  rw [← List.append_assoc]
  cases hword with
  | number hne' hdigits =>
      obtain ⟨d, ds, rfl⟩ := List.exists_cons_of_ne_nil hne'
      have hended := hstands.ended hne d (by rw [hc]; rfl)
      exact absurd (hdigits d List.mem_cons_self) hended
  | @identifier name hname =>
      have hparts := isWordPart_of_isName hname
      have hchars : ∀ c ∈ digits ++ name.toList, isWordChar c = true :=
        List.forall_mem_append.2 ⟨fun d hd => isWordChar_of_isDigit (hstands.isDigit d hd),
          fun c hc => isWordChar_of_isWordPart (hparts c hc)⟩
      have hspans := highlight_word (by simp [hne]) hchars (hrest.endsWord hends)
      have hnone := ofSpelling?_digits hne hstands.isDigit name.toList
      refine ShowsKeywords.append_plain [_] [_] hspans (by simp) ?_ (by simp)
        (by simpa using hbehind (by simp))
      rw [List.forall_mem_singleton]
      exact not_isReserved_styleBefore hnone _
  | stringLiteral => exact absurd (endsWord_cons (by decide) _) hgoes
  | keyword k =>
      exact ShowsKeywords.keyword_behind_number k hne hstands.isDigit (hrest.endsWord hends)
        (hbehind (by simp))
  | symbol s => exact absurd (by cases s <;> exact endsWord_cons (by decide) _) hgoes

/-- What is in front of a token that is not shown yet: a number, and blanks. -/
theorem showsKeywords_lead {lead cs : List Char} (hdigits : ∀ d ∈ digits, d.isDigit = true)
    (hlead : ∀ c ∈ lead, isBlank c = true) (hends : EndsWord (lead ++ cs))
    (h : ShowsKeywords (front ++ digits ++ lead) cs ts) :
    ShowsKeywords front (digits ++ (lead ++ cs)) ts := by
  have hblanks : ShowsKeywords (front ++ digits) (lead ++ cs) ts :=
    ShowsKeywords.append_plain _ []
      (highlight_marks (fun c hc => isMark_of_isBlank (hlead c hc)) cs)
      (text_marks _) (not_isReserved_of_mem_marks _) (by simp) h
  by_cases hne : digits = []
  · subst hne
    simpa using hblanks
  · refine ShowsKeywords.append_plain [_] []
      (highlight_word hne (fun d hd => isWordChar_of_isDigit (hdigits d hd)) hends) (by simp) ?_
      (by simp) hblanks
    rw [List.forall_mem_singleton]
    simpa using not_isReserved_styleBefore (ofSpelling?_digits hne hdigits []) (lead ++ cs)

theorem endsWord_lead {lead cs : List Char} (hlead : ∀ c ∈ lead, isBlank c = true)
    (h : lead = [] → EndsWord cs) : EndsWord (lead ++ cs) := by
  cases lead with
  | nil => exact h rfl
  | cons c lead => exact endsWord_cons (isMark_of_isBlank (hlead c List.mem_cons_self)).1 _

theorem apart_of_endsWord {cs : List Char} (h : EndsWord cs) (pre : List Char) : Apart pre cs := by
  refine .inr fun d hd => ?_
  have hchar := h d hd
  by_contra hpart
  rw [isWordChar_of_isWordPart (Bool.not_eq_false _ ▸ hpart)] at hchar
  cases hchar

/-- The layout in front of a token is made of `isBlank` characters, on a line without a block
comment. -/
theorem isBlank_of_rest_eq {lead more : List Char} (hrest : c.rest = lead ++ more)
    (hlead : IsLayout lead) (hline : '\n' ∉ c.rest) (hblock : ¬ c.HasBlockComment) :
    ∀ x ∈ lead, isBlank x = true := by
  rw [hrest, List.mem_append, not_or] at hline
  refine hlead.isBlank hline.1 ?_
  rintro front body hfront rfl
  exact hblock ⟨0, front, body ++ more, hfront, by simp [TokenSource.pulls, hrest]⟩

/-- `ShowsKeywords` holds of what ends a line, which shows no reserved word. -/
theorem showsKeywords_ending {ending : List Char} {t : Token} (hending : IsEnding ending)
    (ht : ∀ k, t.lexeme ≠ .keyword k) : ShowsKeywords front ending [t] := by
  refine .other ht ?_
  have hnil : ShowsKeywords (front ++ ending) [] [] :=
    ⟨by simp, by simp [highlight_nil, Line.placed]⟩
  obtain rfl | ⟨body, -, rfl⟩ := hending
  · simpa using hnil
  · have hspans : highlight ('/' :: '/' :: body ++ []) =
        [⟨'/' :: '/' :: body, .ofColor Palette.comment⟩] ++ highlight [] := by
      rw [List.append_nil, highlight_comment, highlight_nil]
      rfl
    have hshows := ShowsKeywords.append_plain _ [] hspans (by simp) ?_ (by simp) hnil
    · rwa [List.append_nil] at hshows
    · rw [List.forall_mem_singleton]
      show ¬ (Style.ofColor Palette.comment).IsReserved
      decide

/-- Where a line ends, no reserved word is left to be shown. -/
theorem showsKeywords_end {t : Token} (hscan : c.scan = (.ok t, c')) (ht : t.isEnd = true)
    (hline : '\n' ∉ c.rest) (hblock : ¬ c.HasBlockComment) (hstands : StandsAt front digits c) :
    ShowsKeywords front (digits ++ c.rest) [t] := by
  rcases scan_cases hscan with ⟨_, word, _, hword, -⟩ |
    ⟨lead, ending, hlead, hending, hmoves, hrest, rfl⟩
  · -- The end of the text is not spelled.
    cases (hword.isEnd_eq_false t.location).symm.trans ht
  · have hc : c.rest = lead ++ ending := by
      rw [hmoves.rest_eq, hrest, List.append_nil]
    have hblanks := isBlank_of_rest_eq hc hlead hline hblock
    have hover : EndsWord ending := by
      obtain rfl | ⟨body, -, rfl⟩ := hending
      · simp [EndsWord]
      · exact endsWord_cons (by decide) _
    rw [hc]
    exact showsKeywords_lead hstands.isDigit hblanks (endsWord_lead hblanks fun _ => hover)
      (showsKeywords_ending hending (by simp))

/-- `ShowsKeywords` holds from a token on that `scan` reads, if it does behind the token. -/
theorem showsKeywords_token {t : Token} (hscan : c.scan = (.ok t, c')) (ht : t.isEnd = false)
    (hline : '\n' ∉ c.rest) (hblock : ¬ c.HasBlockComment) (hstands : StandsAt front digits c)
    (hrest : ReadsAlike c'.rest)
    (ih : ∀ front digits, StandsAt front digits c' →
      ShowsKeywords front (digits ++ c'.rest) ts) :
    ShowsKeywords front (digits ++ c.rest) (t :: ts) := by
  rcases scan_cases hscan with ⟨lead, word, hlead, hword, hends, hmoves, hat⟩ |
    ⟨_, _, -, -, -, -, rfl⟩
  · obtain ⟨l, here⟩ := t
    have hc : c.rest = lead ++ (word ++ c'.rest) := by
      rw [hmoves.rest_eq, List.append_assoc]
    have hblanks := isBlank_of_rest_eq hc hlead hline hblock
    obtain rfl : here = Location.start.past (front ++ digits ++ lead) := by
      rw [Location.past_append, ← hstands.location]
      exact hat
    have hlocation : c'.location = Location.start.past (front ++ digits ++ lead ++ word) := by
      rw [hmoves.location_eq, hstands.location, ← Location.past_append]
      simp only [List.append_assoc]
    by_cases hover : EndsWord c.rest
    · -- The number in front, if there is one, is over.
      rw [hc] at hover ⊢
      refine showsKeywords_lead hstands.isDigit hblanks hover
        (showsKeywords_lexeme hword hends hlocation (.inr ?_) hrest ih)
      rcases hlead.endsApart with rfl | hapart
      · exact apart_of_endsWord hover _
      · exact .inl (hapart.append _)
    · -- A word follows at once, since it would be over in front of a blank.
      obtain rfl : lead = [] := by
        by_contra hne
        exact hover (hc ▸ endsWord_lead hblanks fun h => absurd h hne)
      rw [List.append_nil] at hlocation ⊢
      by_cases hdigits : digits = []
      · subst hdigits
        have hfresh := hstands.fresh
        simp only [List.append_nil, List.nil_append, hc] at hlocation hfresh ⊢
        exact showsKeywords_lexeme hword hends hlocation hfresh hrest ih
      · exact showsKeywords_glued hdigits hstands hc hword hends hover hlocation hrest ih
  · cases ht

/-- Where `drain` reads a line to its end, `ShowsKeywords` holds from any place on where the
cursor `StandsAt`. -/
theorem showsKeywords_of_drain (c : Cursor) :
    (TokenSource.drain c).error = none → '\n' ∉ c.rest → ¬ c.HasBlockComment →
      ∀ front digits, StandsAt front digits c →
        ShowsKeywords front (digits ++ c.rest) (TokenSource.drain c).tokens := by
  refine TokenSource.drain_induction (motive := fun c d => d.error = none → '\n' ∉ c.rest →
    ¬ c.HasBlockComment → ∀ front digits, StandsAt front digits c →
      ShowsKeywords front (digits ++ c.rest) d.tokens) ?_ ?_ ?_ c
  · intro c c' e _ herror
    cases herror
  · intro c c' t hscan ht _ hline hblock front digits hstands
    exact showsKeywords_end hscan ht hline hblock hstands
  · intro c c' t hscan ht ih herror hline hblock front digits hstands
    obtain ⟨used, hmoves⟩ := exists_moves_scan hscan
    have hline' : '\n' ∉ c'.rest := fun hmem => hline (by simp [hmoves.rest_eq, hmem])
    have hblock' : ¬ c'.HasBlockComment := fun hcomment => hblock (.of_pull (hscan ▸ hcomment))
    exact showsKeywords_token hscan ht hline hblock hstands (readsAlike_of_drain herror)
      (ih herror hline' hblock')

/-- On one line a location is a column. -/
theorem Location.past_start_of_not_mem {cs : List Char} (h : '\n' ∉ cs) :
    start.past cs = ⟨1, cs.length + 1⟩ := by
  induction cs using List.reverseRecOn with
  | nil => rfl
  | append_singleton cs c ih =>
      rw [List.mem_append, List.mem_singleton, not_or] at h
      rw [past_append, ih h.1, past_cons, past_nil, step, if_neg (Ne.symm h.2)]
      simp

/-- **The reserved words of a line are highlighted.** On a line whose `tokens` are read without
an error and that has no block comment, `highlight` makes a reserved word a span of its own, in
its style, unless it stands right behind a number, where it is in one span with the number, in
no such style. What becomes of one right in front of a literal or a comment is left open. And
what is styled as a reserved word is a `Token` that is read there, and does not stand behind a
number. -/
theorem reserved_words_are_highlighted {line : String} {ts : List Token}
    (hline : Text.OneLine line) (htokens : TokenSource.tokens (ofText line) = .ok ts)
    (hblock : ¬ (ofText line).HasBlockComment) :
    (∀ k here, ⟨.keyword k, here⟩ ∈ ts → ∃ pre rest,
      line.toList = pre ++ (k.spelling.toList ++ rest) ∧ here = ⟨1, pre.length + 1⟩ ∧
        k.ShownIn pre rest (Line.placed [] (highlight line.toList))) ∧
    ∀ x ∈ Line.placed [] (highlight line.toList),
      x.2.style = typeStyle ∨ x.2.style = keywordStyle →
        ∃ k, x.2 = ⟨k.spelling.toList, k.style⟩ ∧ ⟨.keyword k, ⟨1, x.1.length + 1⟩⟩ ∈ ts ∧
          ¬ EndsWithDigit x.1 := by
  have hdrain : TokenSource.drain (ofText line) = ⟨ts, none⟩ := TokenSource.drain_of_tokens htokens
  have hshows := showsKeywords_of_drain (ofText line) (by rw [hdrain]) hline hblock [] []
    ⟨rfl, by simp, by simp, .inl rfl⟩
  rw [hdrain] at hshows
  refine ⟨fun k here hmem => ?_, fun x hx hreserved => ?_⟩
  · obtain ⟨pre, rest, htext, rfl, hshown⟩ := hshows.shown k here hmem
    have hpre : '\n' ∉ pre := by
      intro hmem
      refine hline ?_
      rw [show line.toList = _ from htext]
      exact List.mem_append_left _ hmem
    exact ⟨pre, rest, htext, Location.past_start_of_not_mem hpre, hshown⟩
  · obtain ⟨k, hspan, hmem, hdigit⟩ := hshows.only x hx hreserved
    obtain ⟨before, after, hcut, hfront⟩ := Line.mem_placed_iff.1 hx
    have hpre : '\n' ∉ x.1 := by
      intro hmem
      refine hline ?_
      rw [← text_highlight line.toList, hcut, Line.text_append]
      exact List.mem_append_left _ (by simpa [hfront] using hmem)
    rw [Location.past_start_of_not_mem hpre] at hmem
    exact ⟨k, hspan, hmem, hdigit⟩

/-- A text without a star has no `HasBlockComment`. -/
theorem not_hasBlockComment {text : String} (h : '*' ∉ text.toList) :
    ¬ (ofText text).HasBlockComment := by
  rintro ⟨n, lead, more, -, hrest⟩
  obtain ⟨pre, hmoves⟩ := exists_moves_pulls text n
  have htext : text.toList = pre ++ (lead ++ '/' :: '*' :: more) := by
    rw [← hrest]
    exact hmoves.rest_eq
  exact h (by simp [htext])

/-- A literal that holds a reserved word, with another one behind it, a reserved word behind
a number, and one in a comment. -/
def mixedLine : String := "\"int\"char c; 1if return; // void"

def mixedTokens : List Token :=
  [⟨.stringLiteral "int", ⟨1, 1⟩⟩, ⟨.keyword .char, ⟨1, 6⟩⟩, ⟨.identifier "c", ⟨1, 11⟩⟩,
    ⟨.symbol .semicolon, ⟨1, 12⟩⟩, ⟨.number 1, ⟨1, 14⟩⟩, ⟨.keyword .ifWord, ⟨1, 15⟩⟩,
    ⟨.keyword .returnWord, ⟨1, 18⟩⟩, ⟨.symbol .semicolon, ⟨1, 24⟩⟩, ⟨.endOfFile, ⟨1, 33⟩⟩]

/-- On `mixedLine` the type behind the literal is a span of its own, and what is styled as a
reserved word is the type or the last word of the statement. -/
theorem reserved_words_are_highlighted_mixed :
    Text.OneLine mixedLine ∧ TokenSource.tokens (ofText mixedLine) = .ok mixedTokens ∧
      ¬ (ofText mixedLine).HasBlockComment ∧
      (∃ pre rest, mixedLine.toList = pre ++ ("char".toList ++ rest) ∧
        (⟨1, 6⟩ : Location) = ⟨1, pre.length + 1⟩ ∧
        Keyword.char.ShownIn pre rest (Line.placed [] (highlight mixedLine.toList))) ∧
      ∀ x ∈ Line.placed [] (highlight mixedLine.toList),
        x.2.style = typeStyle ∨ x.2.style = keywordStyle →
          ∃ k, x.2 = ⟨k.spelling.toList, k.style⟩ ∧
            ⟨.keyword k, ⟨1, x.1.length + 1⟩⟩ ∈ mixedTokens ∧ ¬ EndsWithDigit x.1 := by
  have hline : Text.OneLine mixedLine := by decide
  have htokens : TokenSource.tokens (ofText mixedLine) = .ok mixedTokens := by decide +kernel
  have hblock : ¬ (ofText mixedLine).HasBlockComment := not_hasBlockComment (by decide)
  obtain ⟨hshown, honly⟩ := reserved_words_are_highlighted hline htokens hblock
  exact ⟨hline, htokens, hblock, hshown .char ⟨1, 6⟩ (by decide), honly⟩

/-- Right behind a number, and right in front of a comment, a reserved word is not styled as
one: on these two lines no span is. -/
theorem reserved_words_not_highlighted :
    (Text.OneLine "1int" ∧
      TokenSource.tokens (ofText "1int") =
        .ok [⟨.number 1, ⟨1, 1⟩⟩, ⟨.keyword .int, ⟨1, 2⟩⟩, ⟨.endOfFile, ⟨1, 5⟩⟩] ∧
      ¬ (ofText "1int").HasBlockComment ∧
      highlight "1int".toList = [⟨"1int".toList, .ofColor Palette.text⟩] ∧
      ∀ s ∈ highlight "1int".toList, ¬ s.style.IsReserved) ∧
    Text.OneLine "return//" ∧
      TokenSource.tokens (ofText "return//") =
        .ok [⟨.keyword .returnWord, ⟨1, 1⟩⟩, ⟨.endOfFile, ⟨1, 9⟩⟩] ∧
      ¬ (ofText "return//").HasBlockComment ∧
      highlight "return//".toList =
        [⟨"return".toList, .plain⟩, ⟨"//".toList, .ofColor Palette.comment⟩] ∧
      ∀ s ∈ highlight "return//".toList, ¬ s.style.IsReserved := by
  refine ⟨⟨by decide, by decide +kernel, not_hasBlockComment (by decide), by decide +kernel,
    by decide +kernel⟩, by decide, by decide +kernel, not_hasBlockComment (by decide),
    by decide +kernel, by decide +kernel⟩

end SyntaxExplorer
