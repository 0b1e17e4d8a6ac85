import SyntaxExplorer.Scanner.Cursor

/-!
# SyntaxExplorer.Scanner.Layout

**What stands between tokens**: blanks, comments that run to the end of their
line and comments between `/*` and the first `*/`. Comments do not nest, and a
block comment that is never closed is an error at its opening.

`skipLayout` moves past the longest run of layout. It never moves backwards
(`length_skipLayout_le`), and each of the three forms it skips is at least one
character long, which is why it ends.
-/

namespace SyntaxExplorer

namespace Cursor

/-- The blanks: space, tab, carriage return and line feed. -/
def isBlank (c : Char) : Bool :=
  c == ' ' || c == '\t' || c == '\r' || c == '\n'

/-- Past the next line feed, or at the end of the text if there is none. -/
def pastLine (here : Location) : List Char → Cursor
  | [] => ⟨[], here⟩
  | c :: cs => if c = '\n' then ⟨cs, here.step c⟩ else pastLine (here.step c) cs

/-- Past the next `*/`; none if the text ends before it. -/
def pastBlock (here : Location) : List Char → Option Cursor
  | [] => none
  | '*' :: '/' :: cs => some ⟨cs, (here.step '*').step '/'⟩
  | c :: cs => pastBlock (here.step c) cs

theorem length_pastLine_le (here : Location) (cs : List Char) :
    (pastLine here cs).rest.length ≤ cs.length := by
  induction cs generalizing here with
  | nil => simp [pastLine]
  | cons c cs ih =>
    by_cases h : c = '\n'
    · simp [pastLine, h]
    · simpa [pastLine, h] using Nat.le_succ_of_le (ih (here.step c))

theorem length_pastBlock_le {here : Location} {cs : List Char} {c : Cursor}
    (h : pastBlock here cs = some c) : c.rest.length ≤ cs.length := by
  fun_induction pastBlock here cs with
  | case1 => simp at h
  | case2 here cs =>
    obtain rfl := Option.some.inj h
    simp only [List.length_cons]
    omega
  | case3 here d cs _ ih =>
    have := ih h
    simp only [List.length_cons]
    omega

/-- Past all layout, or the location of the block comment that is never closed. -/
def skipLayout (c : Cursor) : Except Location Cursor :=
  match _hc : c.rest with
  | '/' :: '/' :: cs => skipLayout (pastLine ((c.location.step '/').step '/') cs)
  | '/' :: '*' :: cs =>
    match _hb : pastBlock ((c.location.step '/').step '*') cs with
    | none => .error c.location
    | some c' => skipLayout c'
  | d :: cs => if isBlank d then skipLayout ⟨cs, c.location.step d⟩ else .ok c
  | [] => .ok c
termination_by c.rest.length
decreasing_by
  · have := length_pastLine_le ((c.location.step '/').step '/') cs
    simp only [_hc, List.length_cons]
    omega
  · have := length_pastBlock_le _hb
    simp only [_hc, List.length_cons]
    omega
  · simp [_hc]

/-- Skipping layout never moves backwards. -/
theorem length_skipLayout_le {c c' : Cursor} (h : c.skipLayout = .ok c') :
    c'.rest.length ≤ c.rest.length := by
  fun_induction skipLayout c with
  | case1 c cs hc ih =>
    have hp := length_pastLine_le ((c.location.step '/').step '/') cs
    have := ih h
    simp only [hc, List.length_cons]
    omega
  | case2 => simp at h
  | case3 c cs hc d hb ih =>
    have hp := length_pastBlock_le hb
    have := ih h
    simp only [hc, List.length_cons]
    omega
  | case4 c d cs _ _ hc _ ih =>
    rw [hc]
    exact Nat.le_succ_of_le (ih h)
  | case5 c =>
    obtain rfl := Except.ok.inj h
    exact Nat.le_refl _
  | case6 c =>
    obtain rfl := Except.ok.inj h
    exact Nat.le_refl _

end Cursor

end SyntaxExplorer
