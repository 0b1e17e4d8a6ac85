import Mathlib.Data.Nat.Dist
import SyntaxExplorer.Explorer.OutlineView
import SyntaxExplorer.Explorer.SourceView

/-!
# SyntaxExplorer.Proofs.Explorer.Window

**Which lines a pane shows.** A pane shows as many lines as it has rows, from an offset on.
The outline moves its offset no further than the selected line asks for
(`OutlineView.follow`). The source text moves its offset so that the marked line stands in
the row that is wanted, and gives way where the text does not reach so far
(`SourceScroll.arrange`, `SourceScroll.InView`).
-/

namespace SyntaxExplorer

/-- The rows of a window are made of the lines from its offset on. -/
theorem getElem?_window {α β : Type} (xs : Array α) (offset visible i : Nat)
    (row : α × Nat → β) :
    ((xs.extract offset (offset + visible)).toList.zipIdx.map row)[i]? =
      if i < visible then xs[offset + i]?.map fun x => row (x, i) else none := by
  rw [List.getElem?_map, List.getElem?_zipIdx, Array.getElem?_toList, Array.getElem?_extract]
  by_cases hi : i < visible
  · rw [if_pos hi]
    split
    · simp [Option.map_map, Function.comp_def]
    · rename_i hout
      rw [Array.getElem?_eq_none (by omega)]
      rfl
  · rw [if_neg hi, if_neg (by omega)]
    rfl

/-! ### The outline -/

namespace OutlineView

section Follow

variable {offset selected visible : Nat}

/-- `follow` moves the window up to the selected line, down to it, or not at all. -/
theorem follow_cases (offset selected visible : Nat) :
    (selected < offset ∧ follow offset selected visible = selected) ∨
    (offset ≤ selected ∧ offset + visible ≤ selected ∧
      follow offset selected visible = selected + 1 - visible) ∨
    (offset ≤ selected ∧ selected < offset + visible ∧
      follow offset selected visible = offset) := by
  unfold follow
  by_cases habove : selected < offset
  · exact .inl ⟨habove, if_pos habove⟩
  · rw [if_neg habove]
    by_cases hbelow : offset + visible ≤ selected
    · exact .inr (.inl ⟨Nat.not_lt.1 habove, hbelow, if_pos hbelow⟩)
    · exact .inr (.inr ⟨Nat.not_lt.1 habove, Nat.not_le.1 hbelow, if_neg hbelow⟩)

/-- The selected line is in the window that `follow` finds. -/
theorem follow_spec (h : 0 < visible) :
    follow offset selected visible ≤ selected ∧
      selected < follow offset selected visible + visible := by
  rcases follow_cases offset selected visible with hcase | hcase | hcase <;> omega

/-- Every offset other than `follow`'s with which the selected line is in the window is further
away. -/
theorem dist_follow_lt {other : Nat} (hne : other ≠ follow offset selected visible)
    (hle : other ≤ selected) (hlt : selected < other + visible) :
    Nat.dist offset (follow offset selected visible) < Nat.dist offset other := by
  unfold Nat.dist
  rcases follow_cases offset selected visible with hcase | hcase | hcase <;> omega

end Follow

theorem cursor_eq_iff (isSelected : Bool) :
    cursor isSelected = cursor true ↔ isSelected = true := by
  cases isSelected
  · simp [cursor, Span.ofString]
  · simp

section Rows

variable {lines : Array OutlineLine} {selected offset visible : Nat} (hle : offset ≤ selected)

include hle

/-- Among the `shownLines`, the row of the selected line. -/
theorem getElem?_shownLines (hlt : selected < offset + visible) {line : OutlineLine}
    (hline : lines[selected]? = some line) :
    (shownLines lines selected offset visible)[selected - offset]? =
      some (shownLine line true) := by
  have hrow : offset + (selected - offset) = selected := Nat.add_sub_cancel' hle
  rw [shownLines, getElem?_window, if_pos (by omega), hrow, hline]
  simp [hrow]

/-- Among the `shownLines`, the `cursor` stands in front of the selected line, and of no other
one. -/
theorem head?_shownLines_iff {i : Nat} {row : Line}
    (hrow : (shownLines lines selected offset visible)[i]? = some row) :
    row.head? = some (cursor true) ↔ i = selected - offset := by
  rw [shownLines, getElem?_window] at hrow
  split at hrow
  · obtain ⟨line, -, rfl⟩ := Option.map_eq_some_iff.1 hrow
    show some (cursor (decide (offset + i = selected))) = some (cursor true) ↔ _
    rw [Option.some.injEq, cursor_eq_iff, decide_eq_true_iff]
    omega
  · cases hrow

end Rows

end OutlineView

/-! ### The source text -/

namespace SourceScroll

/-- A window of `visible` rows over `total` lines shows the marked line, in the row if there
are lines enough in front of it and behind it, and else as near to the row as they allow. -/
structure InView (scroll : SourceScroll) (marked total visible row : Nat) : Prop where
  first_le : scroll.offset ≤ marked - 1
  lt_end : marked - 1 < scroll.offset + visible
  on_row : row ≤ marked - 1 → marked - 1 - row ≤ total - visible →
    marked - 1 = scroll.offset + row
  at_start : marked - 1 < row → scroll.offset = 0
  at_end : total - visible < marked - 1 - row → scroll.offset = total - visible

/-- A line that is `InView` stands above its row only where the text is shown from its start. -/
theorem InView.offset_eq_zero {scroll : SourceScroll} {marked total visible row : Nat}
    (h : scroll.InView marked total visible row) (habove : marked - 1 - scroll.offset < row) :
    scroll.offset = 0 := by
  obtain ⟨hle, -, hrow, hstart, hend⟩ := h
  omega

/-- A line that is `InView` stands below its row only where the text is shown to its end. -/
theorem InView.total_le {scroll : SourceScroll} {marked total visible row : Nat}
    (h : scroll.InView marked total visible row) (hbelow : row < marked - 1 - scroll.offset) :
    total ≤ scroll.offset + visible := by
  obtain ⟨hle, -, hrow, hstart, hend⟩ := h
  omega

variable (scroll : SourceScroll) {marked total visible : Nat}

theorem row_lt (h : 0 < visible) : scroll.row visible < visible := by
  unfold row
  omega

/-- `arrange` leaves no empty rows below the text, if it is long enough. -/
theorem offset_arrange_le : (scroll.arrange marked total visible).offset ≤ total - visible :=
  Nat.min_le_right _ _

theorem offset_arrange (hfirst : 1 ≤ marked) (hlast : marked ≤ total) :
    (scroll.arrange marked total visible).offset =
      min (marked - 1 - scroll.row visible) (total - visible) := by
  have hmarked : (decide (0 < marked) && decide (marked ≤ total)) = true := by
    simpa using ⟨hfirst, hlast⟩
  rw [arrange, followedOffset, if_pos hmarked]

/-- `arrange` brings a marked line of the text `InView`. -/
theorem inView_arrange (h : 0 < visible) (hfirst : 1 ≤ marked) (hlast : marked ≤ total) :
    (scroll.arrange marked total visible).InView marked total visible (scroll.row visible) := by
  have hrow := scroll.row_lt h
  have hoffset : (scroll.arrange marked total visible).offset =
      min (marked - 1 - scroll.row visible) (total - visible) := scroll.offset_arrange hfirst hlast
  constructor <;> omega

end SourceScroll

namespace SourceView

variable {text : Array (List Char)} {marked offset visible : Nat}

/-- Among the `shownLines`, the row of the marked line. -/
theorem getElem?_shownLines (hfirst : 1 ≤ marked) (hle : offset ≤ marked - 1)
    (hlt : marked - 1 < offset + visible) {line : List Char}
    (hline : text[marked - 1]? = some line) :
    (shownLines text marked offset visible)[marked - 1 - offset]? =
      some (numberedLine line marked true) := by
  have hrow : offset + (marked - 1 - offset) = marked - 1 := Nat.add_sub_cancel' hle
  rw [shownLines, getElem?_window, if_pos (by omega), hrow, hline]
  simp [hrow, Nat.sub_add_cancel hfirst]

end SourceView

end SyntaxExplorer
