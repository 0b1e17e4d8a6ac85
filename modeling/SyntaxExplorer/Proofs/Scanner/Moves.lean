import SyntaxExplorer.Scanner

/-!
# SyntaxExplorer.Proofs.Scanner.Moves

**A scanner moves over the characters that it reads** and keeps count of them
(`Cursor.Moves`): it skips nothing, and behind the characters it stands at the
location that they lead to, which is a later one.

Whether a word is cut in two between two texts is seen where they meet (`Cursor.Apart`): the
first one does not end with a part of a word, or the second one does not begin with one.
-/

namespace SyntaxExplorer

/-! ### The order of locations -/

namespace Location

/-- The first location comes before the second one in a text. -/
def Before (here there : Location) : Prop :=
  here.line < there.line ∨ here.line = there.line ∧ here.column < there.column

theorem Before.trans {a b c : Location} (h : a.Before b) (h' : b.Before c) : a.Before c := by
  unfold Before at *
  omega

theorem Before.ne {a b : Location} (h : a.Before b) : a ≠ b := by
  rintro rfl
  unfold Before at h
  omega

theorem before_step (here : Location) (c : Char) : here.Before (here.step c) := by
  unfold Before step
  split
  · exact .inl (Nat.lt_succ_self _)
  · exact .inr ⟨rfl, Nat.lt_succ_self _⟩

theorem before_past {cs : List Char} (h : cs ≠ []) (here : Location) :
    here.Before (here.past cs) := by
  induction cs generalizing here with
  | nil => exact absurd rfl h
  | cons c cs ih =>
      rw [past_cons]
      by_cases hcs : cs = []
      · subst hcs
        exact before_step here c
      · exact (before_step here c).trans (ih hcs (here.step c))

end Location

namespace Cursor

/-! ### Moving over characters -/

/-- The second cursor stands behind the characters `cs`, which follow at the first one. -/
structure Moves (c : Cursor) (cs : List Char) (c' : Cursor) : Prop where
  rest_eq : c.rest = cs ++ c'.rest
  location_eq : c'.location = c.location.past cs

namespace Moves

theorem refl (c : Cursor) : c.Moves [] c := ⟨rfl, rfl⟩

theorem trans {c c' c'' : Cursor} {cs ds : List Char} (h : c.Moves cs c') (h' : c'.Moves ds c'') :
    c.Moves (cs ++ ds) c'' := by
  refine ⟨?_, ?_⟩
  · rw [h.rest_eq, h'.rest_eq, List.append_assoc]
  · rw [h'.location_eq, h.location_eq, Location.past_append]

/-- Where a cursor `Moves`, both cursors are in front of the same end. -/
theorem past_rest {c c' : Cursor} {cs : List Char} (h : c.Moves cs c') :
    c'.location.past c'.rest = c.location.past c.rest := by
  rw [h.location_eq, h.rest_eq, Location.past_append]

/-- A cursor `Moves` over one character. -/
theorem step (d : Char) (cs : List Char) (here : Location) :
    Moves ⟨d :: cs, here⟩ [d] ⟨cs, here.step d⟩ :=
  ⟨rfl, rfl⟩

end Moves

/-! ### Where words end -/

/-- The last one of the characters is no part of a word. -/
def EndsApart (cs : List Char) : Prop := ∃ d ∈ cs.getLast?, isWordPart d = false

theorem endsApart_singleton {d : Char} (h : isWordPart d = false) : EndsApart [d] := ⟨d, rfl, h⟩

theorem EndsApart.append {ds : List Char} (h : EndsApart ds) (cs : List Char) :
    EndsApart (cs ++ ds) := by
  obtain ⟨d, hd, hpart⟩ := h
  refine ⟨d, ?_, hpart⟩
  rw [List.getLast?_append, Option.mem_def.1 hd]
  rfl

/-- Between the two texts no word goes on (`isWordPart`). -/
def Apart (cs rest : List Char) : Prop := EndsApart cs ∨ ∀ d ∈ rest.head?, isWordPart d = false

/-! ### Moving over layout -/

theorem isWordPart_of_isBlank {c : Char} (h : isBlank c = true) : isWordPart c = false := by
  simp only [isBlank, Bool.or_eq_true, beq_iff_eq] at h
  rcases h with ((rfl | rfl) | rfl) | rfl <;> decide

/-- The second cursor stands behind some characters that do not end with a part of a
word, unless the text ends there. -/
def Skips (c c' : Cursor) : Prop :=
  ∃ cs, c.Moves cs c' ∧ (cs = [] ∨ c'.rest = [] ∨ EndsApart cs)

/-- A comment is its two first characters and what it `Moves` over. -/
theorem moves_comment {c b : Cursor} {x y : Char} {cs ds : List Char} (hc : c.rest = x :: y :: cs)
    (hds : Moves ⟨cs, (c.location.step x).step y⟩ ds b) : c.Moves ([x] ++ [y] ++ ds) b := by
  obtain ⟨rest, here⟩ := c
  obtain rfl : rest = x :: y :: cs := hc
  exact ((Moves.step ..).trans (.step ..)).trans hds

/-! ### Moving over a token -/

theorem moves_run (p : Char → Bool) (c : Cursor) : c.Moves (c.run p).1 (c.run p).2 :=
  ⟨List.takeWhile_append_dropWhile.symm, rfl⟩

/-- The text begins with the spelling of the symbol that `Symbol.at?` finds. -/
theorem spelling_prefix_of_at? {cs : List Char} {s : Symbol} (h : Symbol.at? cs = some s) :
    s.spelling.toList <+: cs := by
  unfold Symbol.at? at h
  split at h <;> cases h <;> exact ⟨_, rfl⟩

theorem endsApart_spelling (s : Symbol) : EndsApart s.spelling.toList := by
  cases s <;> exact ⟨_, rfl, by decide⟩

/-- What `Cursor.number` reads has the value of all the digits. -/
theorem number_spec {c : Cursor} {t : Token} (h : c.number.1 = .ok t) :
    Nat.ofDigitChars 10 (c.rest.takeWhile Char.isDigit) 0 < numberBound ∧
      t = ⟨.number (Nat.ofDigitChars 10 (c.rest.takeWhile Char.isDigit) 0), c.location⟩ := by
  simp only [number, apply_ite Prod.fst] at h
  split at h
  · rename_i hvalue
    cases h
    exact ⟨hvalue, rfl⟩
  · cases h

end Cursor

end SyntaxExplorer
