import SyntaxExplorer.Proofs.Progress.Relocation
import SyntaxExplorer.Proofs.Scanner.Spelling
import SyntaxExplorer.Proofs.Token.Source

/-!
# SyntaxExplorer.Proofs.Scanner.Concatenation

**Texts one below the other.** Only a line feed starts a line, so a text further down
is scanned like at the top: its tokens and its errors are the same, as many lines
further down (`scan_down`). And a line feed closes whatever a text that is scanned to
its end may leave open, so the tokens of the text below come behind those of the text
above (`drain_lineFeed`).
-/

namespace SyntaxExplorer

namespace Location

/-- The place in the same column so many lines further down. -/
def down (lines : Nat) (here : Location) : Location := ⟨here.line + lines, here.column⟩

@[simp] theorem step_down (lines : Nat) (here : Location) (c : Char) :
    (here.down lines).step c = (here.step c).down lines := by
  unfold step down
  split <;> simp only [Nat.add_right_comm]

@[simp] theorem past_down (lines : Nat) (here : Location) (cs : List Char) :
    (here.down lines).past cs = (here.past cs).down lines := by
  induction cs generalizing here with
  | nil => rfl
  | cons c cs ih => rw [past_cons, step_down, ih, past_cons]

/-- Each line feed leads `Location.past` one line down. -/
theorem line_past (here : Location) (cs : List Char) :
    (here.past cs).line = here.line + cs.count '\n' := by
  induction cs generalizing here with
  | nil => rfl
  | cons c cs ih =>
      rw [past_cons, ih, List.count_cons, step]
      by_cases hc : c = '\n'
      · simp only [hc, if_true, beq_self_eq_true]
        omega
      · simp [hc]

/-- Behind a line feed a text goes on like at `Location.start`, further `down`. -/
theorem past_lineFeed (cs : List Char) :
    start.past (cs ++ ['\n']) = start.down (cs.count '\n' + 1) := by
  rw [past_append, past_cons, past_nil, step, if_pos rfl, line_past, down, start,
    Nat.add_assoc]

end Location

/-! ### Scanning further down -/

def ScanError.relocate (f : Location → Location) (e : ScanError) : ScanError :=
  ⟨e.fault, f e.location⟩

def TokenSource.Drained.relocate (f : Location → Location) (d : Drained) : Drained :=
  ⟨d.tokens.map (Token.relocate f), d.error.map (ScanError.relocate f)⟩

namespace Cursor

/-- The cursor in front of the same text, further down. -/
def down (lines : Nat) (c : Cursor) : Cursor := ⟨c.rest, c.location.down lines⟩

/-- What is answered further down (`Location.down`), and the cursor there. -/
def answerDown (lines : Nat) (answer : Except ScanError Token × Cursor) :
    Except ScanError Token × Cursor :=
  ((answer.1.map (Token.relocate (Location.down lines))).mapError
    (ScanError.relocate (Location.down lines)), answer.2.down lines)

variable (lines : Nat)

theorem pastLine_down (here : Location) (cs : List Char) :
    pastLine (here.down lines) cs = (pastLine here cs).down lines := by
  induction cs generalizing here with
  | nil => rfl
  | cons c cs ih =>
      rw [pastLine, pastLine, Location.step_down, ih]
      split <;> rfl

theorem pastBlock_down (here : Location) (cs : List Char) :
    pastBlock (here.down lines) cs = (pastBlock here cs).map (down lines) := by
  fun_induction pastBlock here cs with
  | case1 => rfl
  | case2 => simp [pastBlock, down]
  | case3 here c cs hmark ih =>
      rw [pastBlock, Location.step_down, ih]
      exact hmark

theorem skipLayout_down (c : Cursor) :
    (c.down lines).skipLayout =
      (c.skipLayout.map (down lines)).mapError (Location.down lines) := by
  fun_induction skipLayout c with
  | case1 c cs hc ih =>
      rw [← ih, ← pastLine_down]
      obtain ⟨rest, here⟩ := c
      obtain rfl : rest = '/' :: '/' :: cs := hc
      rw [down, skipLayout_line, Location.step_down, Location.step_down]
  | case2 c cs hc hb =>
      obtain ⟨rest, here⟩ := c
      obtain rfl : rest = '/' :: '*' :: cs := hc
      refine skipLayout_unclosed ?_
      rw [Location.step_down, Location.step_down, pastBlock_down, hb]
      rfl
  | case3 c cs hc d hb ih =>
      obtain ⟨rest, here⟩ := c
      obtain rfl : rest = '/' :: '*' :: cs := hc
      rw [← ih]
      refine skipLayout_block ?_
      rw [Location.step_down, Location.step_down, pastBlock_down, hb]
      rfl
  | case4 c d cs _ _ hc hblank ih =>
      obtain ⟨rest, here⟩ := c
      obtain rfl : rest = d :: cs := hc
      rw [← ih, down, skipLayout_cons d hblank, Location.step_down]
      rfl
  | case5 c d cs hline hblock hc hblank =>
      refine skipLayout_of_not_opensLayout ?_ _
      rw [hc]
      exact not_opensLayout_cons hline hblock hblank
  | case6 c hc =>
      obtain ⟨rest, here⟩ := c
      obtain rfl : rest = [] := hc
      exact skipLayout_nil _

theorem stringBody_down (opening here : Location) (read cs : List Char) :
    stringBody (opening.down lines) (here.down lines) read cs =
      ((stringBody opening here read cs).1.mapError (ScanError.relocate (Location.down lines)),
        (stringBody opening here read cs).2.down lines) := by
  fun_induction stringBody opening here read cs with
  | case1 => rfl
  | case2 => simp [stringBody, down, Except.mapError]
  | case3 => simp [stringBody, down, Except.mapError, ScanError.relocate]
  | case4 here read c cs d hd ih => simpa [stringBody, hd] using ih
  | case5 here read c cs hd => simp [stringBody, hd, down, Except.mapError, ScanError.relocate]
  | case6 here read c cs _ _ _ ih => rw [stringBody, Location.step_down, ih] <;> assumption

theorem run_down (p : Char → Bool) (c : Cursor) :
    (c.down lines).run p = ((c.run p).1, (c.run p).2.down lines) := by
  simp [run, behind, down]

theorem token_down (c : Cursor) : (c.down lines).token = answerDown lines c.token := by
  obtain ⟨rest, here⟩ := c
  have hrun : ∀ p, run p ⟨rest, here.down lines⟩ = _ := fun p => run_down lines p ⟨rest, here⟩
  simp only [token, down]
  split
  · rfl
  · split
    · rw [Location.step_down, stringBody_down]
      cases (stringBody here (here.step _) [] _).1 <;> rfl
    · split
      · simp only [number, hrun]
        split <;> rfl
      · split
        · simp only [word, hrun]
          rfl
        · split
          · simp only [answerDown, behind, Location.past_down]
            rfl
          · simp only [Location.step_down]
            rfl

/-- **`scan` reads a text further `down` like at the top.** -/
theorem scan_down (c : Cursor) : (c.down lines).scan = answerDown lines c.scan := by
  rw [scan, skipLayout_down, scan]
  cases c.skipLayout with
  | error opening => simp [Except.map, Except.mapError, answerDown, atEnd, down, ScanError.relocate]
  | ok b => exact token_down lines b

theorem drain_down (c : Cursor) :
    TokenSource.drain (c.down lines) =
      (TokenSource.drain c).relocate (Location.down lines) := by
  have hdown : ∀ {c answer}, TokenSource.pull c = answer →
      TokenSource.pull (c.down lines) = answerDown lines answer := by
    rintro c answer rfl
    exact scan_down lines c
  refine TokenSource.drain_induction (motive := fun c d => TokenSource.drain (c.down lines) =
    d.relocate (Location.down lines)) ?_ ?_ ?_ c
  · intro c c' e h
    exact TokenSource.drain_of_error (hdown h)
  · intro c c' t h ht
    exact TokenSource.drain_of_end (hdown h) ht
  · intro c c' t h ht ih
    have hrest := TokenSource.drain_of_token (hdown h) ht
    simp only at hrest
    rw [hrest, ih]
    rfl

/-! ### Scanning one text below another -/

variable {lines}

/-- A text below changes nothing of a token that `scan` reads above. -/
theorem scan_append_lineFeed {c c' : Cursor} {t : Token} (h : c.scan = (.ok t, c'))
    (ht : t.isEnd = false) (below : List Char) :
    scan ⟨c.rest ++ '\n' :: below, c.location⟩ =
      (.ok t, ⟨c'.rest ++ '\n' :: below, c'.location⟩) := by
  obtain ⟨lexeme, there⟩ := t
  rcases scan_cases h with ⟨lead, word, hlead, hword, hends, hmoves, hlocation⟩ |
    ⟨_, _, _, _, _, _, hend⟩
  · obtain rfl : there = c.location.past lead := hlocation
    have hparted : Parted ('\n' :: below) := by
      rintro d ⟨⟩
      rfl
    have hover := endsBefore_append hword.ne_endOfFile hends hparted
    rw [hmoves.rest_eq, List.append_assoc, List.append_assoc, scan_layout hlead,
      scan_spells hword hover, hmoves.location_eq, Location.past_append]
  · rw [hend] at ht
    cases ht

/-- A text for which `scan` answers the end is layout for the text below it. -/
theorem scan_end_lineFeed {c c' : Cursor} {t : Token} (h : c.scan = (.ok t, c'))
    (ht : t.isEnd = true) (below : List Char) :
    scan ⟨c.rest ++ '\n' :: below, c.location⟩ =
      scan ⟨below, c.location.past (c.rest ++ ['\n'])⟩ := by
  rcases scan_cases h with ⟨_, word, _, hword, _⟩ | ⟨lead, ending, hlead, hending, hmoves, hrest, -⟩
  · obtain ⟨lexeme, here⟩ := t
    cases lexeme <;> cases ht
    cases hword
  · have hlayout : IsLayout (c.rest ++ ['\n']) := by
      rw [hmoves.rest_eq, hrest, List.append_nil, List.append_assoc]
      exact hlead.append hending.isLayout
    have hscan := scan_layout hlayout below c.location
    rwa [List.append_assoc] at hscan

/-- **The tokens of the text below come behind those of the text above** in
`TokenSource.drain`. -/
theorem drain_lineFeed (below : List Char) {c : Cursor} {ts : List Token} {last : Token}
    (h : TokenSource.drain c = ⟨ts ++ [last], none⟩) :
    TokenSource.drain (⟨c.rest ++ '\n' :: below, c.location⟩ : Cursor) =
      let d := TokenSource.drain (⟨below, c.location.past (c.rest ++ ['\n'])⟩ : Cursor)
      ⟨ts ++ d.tokens, d.error⟩ := by
  refine TokenSource.drain_induction (motive := fun c d => ∀ ts last, d = ⟨ts ++ [last], none⟩ →
    TokenSource.drain (⟨c.rest ++ '\n' :: below, c.location⟩ : Cursor) =
      let d := TokenSource.drain (⟨below, c.location.past (c.rest ++ ['\n'])⟩ : Cursor)
      ⟨ts ++ d.tokens, d.error⟩) ?_ ?_ ?_ c ts last h
  · intro c c' e _ ts last hd
    cases (TokenSource.Drained.mk.inj hd).2
  · intro c c' t hpull ht ts last hd
    cases ts with
    | nil => exact TokenSource.drain_congr (scan_end_lineFeed hpull ht below)
    | cons => simp at hd
  · intro c c' t hpull ht ih ts last hd
    obtain ⟨htokens, herror⟩ := TokenSource.Drained.mk.inj hd
    cases hdrain : TokenSource.drain c' with
    | mk ts' error =>
    rw [hdrain] at htokens herror
    obtain rfl : error = none := herror
    obtain ⟨front, last', rfl, -⟩ := TokenSource.exists_drain_eq_append hdrain
    obtain ⟨rfl, -⟩ : t :: front = ts ∧ _ := List.append_inj' htokens rfl
    obtain ⟨cs, hmoves⟩ := exists_moves_scan hpull
    rw [TokenSource.drain_of_token (scan_append_lineFeed hpull ht below) ht, ih _ _ hdrain,
      Location.past_append, hmoves.past_rest, ← Location.past_append]
    rfl

/-- Behind a line feed the second text stands as many lines further `down` as the first one has
lines. -/
theorem drain_ofText_lineFeed {first : String} {ts : List Token} {last : Token}
    (h : TokenSource.drain (ofText first) = ⟨ts ++ [last], none⟩) (second : String) :
    TokenSource.drain (ofText (first ++ "\n" ++ second)) =
      let d := (TokenSource.drain (ofText second)).relocate
        (Location.down (first.toList.count '\n' + 1))
      ⟨ts ++ d.tokens, d.error⟩ := by
  have htext : ofText (first ++ "\n" ++ second) =
      ⟨first.toList ++ '\n' :: second.toList, .start⟩ := by
    simp [ofText]
  rw [htext, ← drain_down]
  have hbelow := drain_lineFeed second.toList h
  rwa [show (ofText first).location = .start from rfl, Location.past_lineFeed] at hbelow

end Cursor

end SyntaxExplorer
