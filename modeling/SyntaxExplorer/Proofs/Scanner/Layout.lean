import SyntaxExplorer.Proofs.Scanner.Moves

/-!
# SyntaxExplorer.Proofs.Scanner.Layout

**What counts as layout.** Blanks and comments, one after the other, are layout
(`IsLayout`), and a comment that runs to the end of the text may follow as the last
thing (`IsEnding`). Scanning does not see layout: a text with layout in front is
scanned like the text behind it, from the place where that stands (`scan_layout`).

What scanning skips is layout, and as much of it as there is: behind it the text does
not go on with a blank or a comment (`skipLayout_spec`).
-/

namespace SyntaxExplorer

namespace Cursor

/-- Blanks (`isBlank`) and comments that are closed. -/
inductive IsLayout : List Char → Prop
  | nil : IsLayout []
  | blank {c cs} : isBlank c = true → IsLayout cs → IsLayout (c :: cs)
  | line {body cs} : '\n' ∉ body → IsLayout cs → IsLayout ('/' :: '/' :: (body ++ '\n' :: cs))
  | block {body cs} : ¬ ['*', '/'] <:+: body → IsLayout cs →
      IsLayout ('/' :: '*' :: (body ++ '*' :: '/' :: cs))

/-- Nothing, or a comment that the end of the text closes. -/
def IsEnding (cs : List Char) : Prop := cs = [] ∨ ∃ body, '\n' ∉ body ∧ cs = '/' :: '/' :: body

/-- The text goes on with a blank or a comment. -/
def OpensLayout (cs : List Char) : Prop :=
  (∃ c ∈ cs.head?, isBlank c = true) ∨ ['/', '/'] <+: cs ∨ ['/', '*'] <+: cs

variable {cs more : List Char} {here : Location}

/-! ### Layout is put together -/

theorem IsLayout.append {ds : List Char} (h : IsLayout cs) (hds : IsLayout ds) :
    IsLayout (cs ++ ds) := by
  induction h with
  | nil => exact hds
  | blank hc _ ih => exact .blank hc ih
  | line hbody _ ih => simpa using IsLayout.line hbody ih
  | block hbody _ ih => simpa using IsLayout.block hbody ih

theorem isLayout_singleton {c : Char} (h : isBlank c = true) : IsLayout [c] := .blank h .nil

/-- A line feed closes the comment of an `IsEnding`, which the end of the text would have
closed. -/
theorem IsEnding.isLayout (h : IsEnding cs) : IsLayout (cs ++ ['\n']) := by
  obtain rfl | ⟨body, hbody, rfl⟩ := h
  · exact isLayout_singleton (by decide)
  · exact .line hbody .nil

/-! ### Scanning does not see layout -/

theorem pastLine_lineFeed {body : List Char} (h : '\n' ∉ body) (here : Location)
    (more : List Char) :
    pastLine here (body ++ '\n' :: more) = ⟨more, here.past (body ++ ['\n'])⟩ := by
  induction body generalizing here with
  | nil => simp [pastLine]
  | cons c body ih =>
      rw [List.mem_cons, not_or] at h
      rw [List.cons_append, pastLine, if_neg (Ne.symm h.1), ih h.2]
      rfl

theorem pastLine_of_not_mem {body : List Char} (h : '\n' ∉ body) (here : Location) :
    pastLine here body = ⟨[], here.past body⟩ := by
  induction body generalizing here with
  | nil => rfl
  | cons c body ih =>
      rw [List.mem_cons, not_or] at h
      rw [pastLine, if_neg (Ne.symm h.1), ih h.2]
      rfl

theorem pastBlock_close {body : List Char} (h : ¬ ['*', '/'] <:+: body) (here : Location)
    (more : List Char) :
    pastBlock here (body ++ '*' :: '/' :: more) = some ⟨more, here.past (body ++ ['*', '/'])⟩ := by
  induction body generalizing here with
  | nil => rfl
  | cons c body ih =>
      have hbody : ¬ ['*', '/'] <:+: body := fun hin => h (hin.trans (List.suffix_cons ..).isInfix)
      rw [List.cons_append, pastBlock, ih hbody]
      · rfl
      · -- The mark does not begin in front of `body`, neither in it nor at its end.
        rintro rest rfl hrest
        cases body with
        | nil => cases hrest
        | cons d body =>
            obtain ⟨rfl, -⟩ := List.cons.inj hrest
            exact h (List.prefix_append ['*', '/'] body).isInfix

theorem skipLayout_cons (c : Char) (hc : isBlank c = true) (cs : List Char) (here : Location) :
    skipLayout ⟨c :: cs, here⟩ = skipLayout ⟨cs, here.step c⟩ := by
  have hslash : c ≠ '/' := by
    rintro rfl
    cases hc
  rw [skipLayout]
  split <;> simp_all

theorem skipLayout_line (cs : List Char) (here : Location) :
    skipLayout ⟨'/' :: '/' :: cs, here⟩ = skipLayout (pastLine ((here.step '/').step '/') cs) := by
  rw [skipLayout]
  rfl

theorem skipLayout_block {c : Cursor} (h : pastBlock ((here.step '/').step '*') cs = some c) :
    skipLayout ⟨'/' :: '*' :: cs, here⟩ = skipLayout c := by
  rw [skipLayout]
  simp only []
  split
  · rename_i hnone
    cases h.symm.trans hnone
  · rename_i hsome
    rw [Option.some.inj (h.symm.trans hsome)]

theorem skipLayout_unclosed (h : pastBlock ((here.step '/').step '*') cs = none) :
    skipLayout ⟨'/' :: '*' :: cs, here⟩ = .error here := by
  rw [skipLayout]
  simp only []
  split
  · rfl
  · rename_i hsome
    cases h.symm.trans hsome

/-- `skipLayout` skips layout (`IsLayout`) up to what stands behind it. -/
theorem skipLayout_append (h : IsLayout cs) (more : List Char) (here : Location) :
    skipLayout ⟨cs ++ more, here⟩ = skipLayout ⟨more, here.past cs⟩ := by
  induction h generalizing here with
  | nil => rfl
  | blank hc _ ih => rw [List.cons_append, skipLayout_cons _ hc, ih, Location.past_cons]
  | @line body cs hbody _ ih =>
      rw [List.cons_append, List.cons_append, List.append_assoc, List.cons_append, skipLayout_line,
        pastLine_lineFeed hbody, ih]
      simp [Location.past_append]
  | @block body cs hbody _ ih =>
      rw [List.cons_append, List.cons_append, List.append_assoc, List.cons_append,
        List.cons_append, skipLayout_block (pastBlock_close hbody _ _), ih]
      simp [Location.past_append]

/-- **`scan` does not see layout** (`IsLayout`). -/
theorem scan_layout (h : IsLayout cs) (more : List Char) (here : Location) :
    scan ⟨cs ++ more, here⟩ = scan ⟨more, here.past cs⟩ := by
  rw [scan, scan, skipLayout_append h]
  simp only [atEnd, Location.past_append]

theorem skipLayout_nil (here : Location) : skipLayout ⟨[], here⟩ = .ok ⟨[], here⟩ := by
  rw [skipLayout]

/-- Where only an `IsEnding` is left, `scan` answers the end of the text. -/
theorem scan_ending (h : IsEnding cs) (here : Location) :
    scan ⟨cs, here⟩ = (.ok ⟨.endOfFile, here.past cs⟩, ⟨[], here.past cs⟩) := by
  obtain rfl | ⟨body, hbody, rfl⟩ := h
  · rw [scan, skipLayout_nil]
    rfl
  · rw [scan, skipLayout_line, pastLine_of_not_mem hbody, skipLayout_nil]
    rfl

theorem not_opensLayout_cons {d : Char} (hline : ∀ more, d = '/' → cs = '/' :: more → False)
    (hblock : ∀ more, d = '/' → cs = '*' :: more → False) (hblank : ¬ isBlank d = true) :
    ¬ OpensLayout (d :: cs) := by
  rintro (⟨x, hx, hx'⟩ | ⟨more, hmore⟩ | ⟨more, hmore⟩)
  · cases hx
    exact hblank hx'
  · obtain ⟨rfl, rfl⟩ := List.cons.inj hmore
    exact hline _ rfl rfl
  · obtain ⟨rfl, rfl⟩ := List.cons.inj hmore
    exact hblock _ rfl rfl

/-- Where no layout stands (`OpensLayout`), `skipLayout` skips none. -/
theorem skipLayout_of_not_opensLayout (h : ¬ OpensLayout cs) (here : Location) :
    skipLayout ⟨cs, here⟩ = .ok ⟨cs, here⟩ := by
  simp only [OpensLayout, not_or] at h
  rw [skipLayout]
  split
  · rename_i cs' hcs
    subst hcs
    exact absurd (List.prefix_append ['/', '/'] cs') h.2.1
  · rename_i cs' hcs
    subst hcs
    exact absurd (List.prefix_append ['/', '*'] cs') h.2.2
  · rename_i d cs' _ _ hcs
    subst hcs
    rw [if_neg fun hblank => h.1 ⟨d, rfl, hblank⟩]
  · rfl

theorem scan_of_not_opensLayout (h : ¬ OpensLayout cs) (here : Location) :
    scan ⟨cs, here⟩ = token ⟨cs, here⟩ := by
  rw [scan, skipLayout_of_not_opensLayout h]

/-! ### What is skipped is layout -/

/-- `pastLine` runs to the first line feed, or to the end of the text. -/
theorem moves_pastLine (here : Location) (cs : List Char) :
    (∃ body, '\n' ∉ body ∧ Moves ⟨cs, here⟩ (body ++ ['\n']) (pastLine here cs)) ∨
    '\n' ∉ cs ∧ pastLine here cs = ⟨[], here.past cs⟩ := by
  by_cases h : '\n' ∈ cs
  · obtain ⟨body, more, rfl, hbody⟩ := List.eq_append_cons_of_mem h
    rw [pastLine_lineFeed hbody]
    exact .inl ⟨body, hbody, by simp, rfl⟩
  · exact .inr ⟨h, pastLine_of_not_mem h here⟩

/-- `pastBlock` runs to the first closing mark. -/
theorem moves_pastBlock {c : Cursor} (h : pastBlock here cs = some c) :
    ∃ body, ¬ ['*', '/'] <:+: body ∧ Moves ⟨cs, here⟩ (body ++ ['*', '/']) c := by
  fun_induction pastBlock here cs with
  | case1 => cases h
  | case2 here cs =>
      obtain rfl := Option.some.inj h
      exact ⟨[], by simp, rfl, rfl⟩
  | case3 here d cs hmark ih =>
      obtain ⟨body, hbody, hmoves⟩ := ih h
      have hcs : cs = body ++ ['*', '/'] ++ c.rest := hmoves.rest_eq
      refine ⟨d :: body, ?_, (Moves.step d cs here).trans hmoves⟩
      rw [List.infix_cons_iff, not_or]
      refine ⟨?_, hbody⟩
      -- If a mark began at `d`, the comment would have ended there.
      rintro hprefix
      obtain ⟨rfl, more, rfl⟩ := List.cons_prefix_cons.1 hprefix
      exact hmark _ rfl (by rw [hcs]; rfl)

/-- Where `pastBlock` has no result, there is no closing mark. -/
theorem not_infix_of_pastBlock (h : pastBlock here cs = none) : ¬ ['*', '/'] <:+: cs := by
  fun_induction pastBlock here cs with
  | case1 => simp
  | case2 => cases h
  | case3 here d cs hmark ih =>
      rw [List.infix_cons_iff, not_or]
      refine ⟨?_, ih h⟩
      rintro hprefix
      obtain ⟨rfl, more, rfl⟩ := List.cons_prefix_cons.1 hprefix
      exact hmark _ rfl rfl

/-- **`skipLayout` skips all the layout that there is**: layout (`IsLayout`), up to where none
stands (`OpensLayout`), or all of the text, with an `IsEnding` behind the layout. -/
theorem skipLayout_spec {c b : Cursor} (h : c.skipLayout = .ok b) :
    ¬ OpensLayout b.rest ∧ ∃ lead ending, IsLayout lead ∧ IsEnding ending ∧
      c.Moves (lead ++ ending) b ∧ (ending = [] ∨ b.rest = []) := by
  fun_induction skipLayout c with
  | case1 c cs hc ih =>
      rcases moves_pastLine ((c.location.step '/').step '/') cs with
        ⟨body, hbody, hline⟩ | ⟨hcs, hpast⟩
      · obtain ⟨hstop, lead, ending, hlead, hending, hmoves, hover⟩ := ih h
        refine ⟨hstop, _, ending, .line hbody hlead, hending, ?_, hover⟩
        simpa using (moves_comment hc hline).trans hmoves
      · -- The comment takes all of the text.
        rw [hpast, skipLayout_nil] at h
        obtain rfl := Except.ok.inj h
        refine ⟨by simp [OpensLayout], [], _, .nil, .inr ⟨cs, hcs, rfl⟩, ?_, .inr rfl⟩
        exact moves_comment hc ⟨(List.append_nil cs).symm, rfl⟩
  | case2 => cases h
  | case3 c cs hc d hb ih =>
      obtain ⟨body, hbody, hblock⟩ := moves_pastBlock hb
      obtain ⟨hstop, lead, ending, hlead, hending, hmoves, hover⟩ := ih h
      refine ⟨hstop, _, ending, .block hbody hlead, hending, ?_, hover⟩
      simpa using (moves_comment hc hblock).trans hmoves
  | case4 c d cs _ _ hc hblank ih =>
      obtain ⟨hstop, lead, ending, hlead, hending, hmoves, hover⟩ := ih h
      have hstep : c.Moves [d] ⟨cs, c.location.step d⟩ := ⟨hc, rfl⟩
      exact ⟨hstop, _, ending, .blank hblank hlead, hending, hstep.trans hmoves, hover⟩
  | case5 c d cs hline hblock hc hblank =>
      obtain rfl := Except.ok.inj h
      refine ⟨?_, [], [], .nil, .inl rfl, .refl _, .inl rfl⟩
      rw [hc]
      exact not_opensLayout_cons hline hblock hblank
  | case6 c hc =>
      obtain rfl := Except.ok.inj h
      exact ⟨by simp [OpensLayout, hc], [], [], .nil, .inl rfl, .refl _, .inl rfl⟩

/-- `skipLayout` fails where a comment behind some layout is not closed. -/
theorem skipLayout_error {c : Cursor} {opening : Location} (h : c.skipLayout = .error opening) :
    ∃ lead body, IsLayout lead ∧ ¬ ['*', '/'] <:+: body ∧
      c.Moves lead ⟨'/' :: '*' :: body, opening⟩ := by
  fun_induction skipLayout c with
  | case1 c cs hc ih =>
      rcases moves_pastLine ((c.location.step '/').step '/') cs with
        ⟨body, hbody, hline⟩ | ⟨-, hpast⟩
      · obtain ⟨lead, comment, hlead, hcomment, hmoves⟩ := ih h
        refine ⟨_, comment, .line hbody hlead, hcomment, ?_⟩
        simpa using (moves_comment hc hline).trans hmoves
      · rw [hpast, skipLayout_nil] at h
        cases h
  | case2 c cs hc hnone =>
      cases h
      exact ⟨[], cs, .nil, not_infix_of_pastBlock hnone, hc, rfl⟩
  | case3 c cs hc d hb ih =>
      obtain ⟨body, hbody, hblock⟩ := moves_pastBlock hb
      obtain ⟨lead, comment, hlead, hcomment, hmoves⟩ := ih h
      refine ⟨_, comment, .block hbody hlead, hcomment, ?_⟩
      simpa using (moves_comment hc hblock).trans hmoves
  | case4 c d cs _ _ hc hblank ih =>
      obtain ⟨lead, comment, hlead, hcomment, hmoves⟩ := ih h
      have hstep : c.Moves [d] ⟨cs, c.location.step d⟩ := ⟨hc, rfl⟩
      exact ⟨_, comment, .blank hblank hlead, hcomment, hstep.trans hmoves⟩
  | case5 | case6 => cases h

end Cursor

end SyntaxExplorer
