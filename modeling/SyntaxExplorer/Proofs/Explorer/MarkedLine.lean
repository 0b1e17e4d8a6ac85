import SyntaxExplorer.Proofs.Explorer.Run
import SyntaxExplorer.Proofs.Node.Locations

/-!
# SyntaxExplorer.Proofs.Explorer.MarkedLine

**The marked line of the source text is always in view.** The pane wants it in some row and
shows it there, unless the text ends too early or begins too late
(`marked_line_is_in_view`). In an explorer that was opened on the program of its text the
selected node stands on a line of the text (`line_bounds_of_parse`), so a line is marked in
every state (`Explorer.markedLine_bounds`).

The keys that scroll the text move the row that is wanted (`SourceScroll.targetRow`). This
moves the text by a line only where the marked line stands in that row
(`offset_after_scrolling`). Near an end of the text it can stand elsewhere, and then a key may
have nothing to show for it (`scrolling_without_effect`).
-/

namespace SyntaxExplorer

/-! ### The lines that nodes stand on -/

section Parsed

variable {source : String} {p : Program} (h : (parse (Cursor.ofText source)).1 = .ok p)

include h

/-- Every node of a program that `parse` reads stands on one of the `Text.lines`. -/
theorem line_bounds_of_parse :
    ∀ x ∈ p.nodes,
      1 ≤ x.1.location.line ∧ x.1.location.line ≤ (Text.lines source.toList).length := by
  obtain ⟨ts, last, -, happart, hanchor, -⟩ := exists_tokens_of_parse h
  intro x hx
  obtain ⟨hapart, hwell⟩ := happart _ (hanchor x hx)
  obtain ⟨hfirst, before, after, hline, -⟩ := hapart.exists_line hwell x.1.lexeme_cases
  obtain ⟨hlt, -⟩ := List.getElem?_eq_some_iff.1 hline
  exact ⟨hfirst, Nat.le_of_pred_lt hlt⟩

theorem nodes_ne_nil_of_parse : p.nodes ≠ [] := by
  obtain ⟨⟨hfunctions, -⟩, -⟩ := wellFormed_of_parse h
  obtain ⟨f, fs, hfs⟩ := List.exists_cons_of_ne_nil hfunctions
  rw [Program.nodes_eq, Program.topLevel, hfs, List.map_cons, Node.preOrder_cons]
  exact List.cons_ne_nil _ _

/-- Whatever is done with an explorer of a program that `parse` reads, its `markedLine` is a
line of the text. -/
theorem Explorer.markedLine_bounds (events : List Event) :
    let e := (ofProgram p source).after events
    1 ≤ e.markedLine ∧ e.markedLine ≤ e.sourceLines.size := by
  intro e
  obtain ⟨-, htext, hlines⟩ := (shows_ofProgram p source).after events
  obtain ⟨line, hline, -⟩ := tellsSelection_after (nodes_ne_nil_of_parse h) source events
  have hselected : e.selectedLine? = some line := hline
  rw [hlines, Program.outlineLines_eq, List.getElem?_toArray] at hline
  obtain ⟨x, hx, rfl⟩ := List.mem_map.1 (List.mem_of_getElem? hline)
  have hmarked : e.markedLine = x.1.location.line := by
    rw [markedLine, hselected]
    rfl
  have hsize : e.sourceLines.size = (Text.lines source.toList).length := by
    rw [sourceLines, htext, List.size_toArray]
  rw [hmarked, hsize]
  exact line_bounds_of_parse h x hx

end Parsed

/-! ### What is shown of the text -/

/-- A line of the text that is marked is one of the lines that `SourceView.drawWith` hands to
the painter, as the marked one. -/
theorem SourceView.exists_marked_row {γ : Type} (paint : PanePainter γ) (canvas : γ) (area : Area)
    (text : Array (List Char)) (isFocused : Bool) (scroll : SourceScroll) {marked : Nat}
    (hfirst : 1 ≤ marked) (hlast : marked ≤ text.size) :
    let visible := max 1 (area.height - 2)
    let drawn := (drawWith paint canvas area text marked isFocused scroll).2
    drawn.InView marked text.size visible (scroll.row visible) ∧
      ∃ line, text[marked - 1]? = some line ∧
        (shownLines text marked drawn.offset visible)[marked - 1 - drawn.offset]? =
          some (numberedLine line marked true) := by
  intro visible drawn
  have hview : drawn.InView marked text.size visible (scroll.row visible) :=
    scroll.inView_arrange (Nat.le_max_left _ _) hfirst hlast
  have hline : text[marked - 1]? = some text[marked - 1] := Array.getElem?_eq_getElem (by omega)
  exact ⟨hview, _, hline, getElem?_shownLines hfirst hview.first_le hview.lt_end hline⟩

/-- **The marked line of the source text is always in view**, with any `PanePainter` and in an
area of any height. Whatever was shown before, `SourceView.drawWith` wants the marked line in
one of the rows, and shows no empty rows below a text that fills them. A marked line of the
text is in view (`SourceScroll.InView`), and it stands in its row unless the text does not
reach far enough in front of it or behind it. In an explorer of a text that was read, a line
of the text is marked in every state, and so it is in view at every `Explorer.drawWith`.

In view means that the line is one of those that are handed to the painter, of which there
are as many as `Frame.visibleLines` has it, and so at least one. `Frame.draw` has no row
inside its border for that one if the pane is at most two rows high: then the marked line is
handed over, and is not on the screen. -/
theorem marked_line_is_in_view (source : String) :
    let text := (Text.lines source.toList).toArray
    (∀ {γ : Type} (paint : PanePainter γ) (canvas : γ) (area : Area) (marked : Nat)
        (isFocused : Bool) (scroll : SourceScroll),
      let visible := max 1 (area.height - 2)
      let drawn := (SourceView.drawWith paint canvas area text marked isFocused scroll).2
      let rows := SourceView.shownLines text marked drawn.offset visible
      (SourceView.drawWith paint canvas area text marked isFocused scroll).1 =
        paint canvas area SourceView.title isFocused rows ∧
      ∃ row, drawn.targetRow = some row ∧ row < visible ∧ drawn.offset ≤ text.size - visible ∧
        (1 ≤ marked → marked ≤ text.size →
          drawn.InView marked text.size visible row ∧
          ∃ line, text[marked - 1]? = some line ∧
            rows[marked - 1 - drawn.offset]? =
              some (SourceView.numberedLine line marked true))) ∧
    ∀ p, (parse (Cursor.ofText source)).1 = .ok p → ∀ events,
      let e := (Explorer.ofProgram p source).after events
      (1 ≤ e.markedLine ∧ e.markedLine ≤ text.size) ∧
      ∀ {γ : Type} (painter : Explorer.Painter γ) (layout : Explorer.Layout) (canvas : γ),
        let visible := max 1 (layout.source.height - 2)
        let drawn := (e.drawWith painter layout canvas).2
        let rows := SourceView.shownLines text drawn.markedLine drawn.sourceScroll.offset visible
        (e.drawWith painter layout canvas).1 =
          painter.statusLine (OutlineView.drawWith painter.pane
            (painter.pane canvas layout.source SourceView.title (e.focus = .source) rows)
            layout.outline e.lines e.selected (e.focus = .outline) e.outlineOffset).1
            layout.status e.statusLine ∧
        ∃ row, drawn.sourceScroll.targetRow = some row ∧
          drawn.sourceScroll.InView drawn.markedLine text.size visible row ∧
          ∃ line, text[drawn.markedLine - 1]? = some line ∧
            rows[drawn.markedLine - 1 - drawn.sourceScroll.offset]? =
              some (SourceView.numberedLine line drawn.markedLine true) := by
  intro text
  refine ⟨?_, ?_⟩
  · intro γ paint canvas area marked isFocused scroll visible drawn rows
    refine ⟨rfl, _, rfl, scroll.row_lt (Nat.le_max_left _ _), scroll.offset_arrange_le, ?_⟩
    intro hfirst hlast
    exact SourceView.exists_marked_row paint canvas area text isFocused scroll hfirst hlast
  · intro p hparse events e
    have htext : e.sourceLines = text := by
      rw [Explorer.sourceLines, ((Explorer.shows_ofProgram p source).after events).text]
    obtain ⟨hfirst, hlast⟩ : 1 ≤ e.markedLine ∧ e.markedLine ≤ e.sourceLines.size :=
      Explorer.markedLine_bounds hparse events
    rw [← htext]
    refine ⟨⟨hfirst, hlast⟩, ?_⟩
    intro γ painter layout canvas visible drawn rows
    exact ⟨rfl, _, rfl, SourceView.exists_marked_row painter.pane canvas layout.source
      e.sourceLines (e.focus = .source) e.sourceScroll hfirst hlast⟩

/-- A function with two blank lines behind its one statement. -/
def spacedText : String := "int f() \x7b\nreturn;\n\n\n\x7d"

def spacedProgram : Program := ⟨[⟨"f", .int, [], [.returnValue none ⟨2, 1⟩], .start⟩]⟩

theorem parse_spacedText : (parse (Cursor.ofText spacedText)).1 = .ok spacedProgram :=
  parse_of_toOption (by decide +kernel)

/-- The last line of `spacedText` is wanted far below the last of four rows, and stands there.
In an explorer of the text the second line is marked, and fills a pane of one row. -/
theorem marked_line_is_in_view_spaced :
    let text := (Text.lines spacedText.toList).toArray
    let drawn := (SourceView.draw (.blank 20 6) ⟨0, 0, 20, 6⟩ text 5 true ⟨3, some 9⟩).2
    let e := (Explorer.ofProgram spacedProgram spacedText).after
      [.draw (.ofSize 20 7), .press .endKey, .press .tab]
    text.size = 5 ∧ drawn = ⟨1, some 3⟩ ∧ drawn.InView 5 5 4 3 ∧
      (parse (Cursor.ofText spacedText)).1 = .ok spacedProgram ∧ e.markedLine = 2 ∧
      (e.draw 20 3).2.sourceScroll.InView 2 5 1 0 := by
  intro text drawn e
  have hsize : text.size = 5 := by decide +kernel
  have hdrawn : drawn = ⟨1, some 3⟩ := by decide +kernel
  have hmarked : e.markedLine = 2 := by decide +kernel
  obtain ⟨hpane, hexplorer⟩ := marked_line_is_in_view spacedText
  refine ⟨hsize, hdrawn, ?_, parse_spacedText, hmarked, ?_⟩
  · obtain ⟨-, row, hrow, -, -, hview⟩ :=
      hpane Frame.draw (.blank 20 6) ⟨0, 0, 20, 6⟩ 5 true ⟨3, some 9⟩
    obtain rfl : 3 = row := Option.some.inj hrow
    obtain ⟨hshown, -⟩ := hview (by decide) (Nat.le_of_eq hsize.symm)
    rwa [hsize] at hshown
  · obtain ⟨-, hdraw⟩ :=
      hexplorer _ parse_spacedText [.draw (.ofSize 20 7), .press .endKey, .press .tab]
    obtain ⟨-, row, hrow, hshown, -⟩ := hdraw .onScreen (.ofSize 20 3) (.blank 20 3)
    have htop : (e.draw 20 3).2.sourceScroll.targetRow = some 0 := by decide +kernel
    obtain rfl := Option.some.inj (htop.symm.trans hrow)
    have hseen : (e.draw 20 3).2.sourceScroll.InView (e.draw 20 3).2.markedLine text.size 1 0 :=
      hshown
    have hsame : (e.draw 20 3).2.markedLine = 2 := hmarked
    rwa [hsize, hsame] at hseen

/-! ### Scrolling by a line -/

namespace SourceScroll

section Arranged

variable (scroll : SourceScroll) {marked total visible : Nat} (h : 0 < visible)
  (hfirst : 1 ≤ marked) (hlast : marked ≤ total)

include h hfirst hlast

/-- `down 1` moves the text if there is more of it below, the marked line is not in the top
row, and it is not further up than it is wanted. -/
theorem offset_down :
    let shown := scroll.arrange marked total visible
    let displayed := marked - 1 - shown.offset
    ((shown.down 1).arrange marked total visible).offset =
      if shown.offset + visible < total ∧ 0 < displayed ∧ scroll.row visible ≤ displayed then
        shown.offset + 1
      else shown.offset := by
  intro shown displayed
  have hrow := scroll.row_lt h
  have hoffset : shown.offset = _ := scroll.offset_arrange hfirst hlast
  have hmoved : (shown.down 1).row visible = min (scroll.row visible - 1) (visible - 1) := rfl
  rw [offset_arrange _ hfirst hlast, hmoved]
  split <;> omega

/-- `up 1` moves the text if there is more of it above, the marked line is not in the bottom
row, and it is not further down than it is wanted. -/
theorem offset_up :
    let shown := scroll.arrange marked total visible
    let displayed := marked - 1 - shown.offset
    ((shown.up 1).arrange marked total visible).offset =
      if 0 < shown.offset ∧ displayed + 1 < visible ∧ displayed ≤ scroll.row visible then
        shown.offset - 1
      else shown.offset := by
  intro shown displayed
  have hrow := scroll.row_lt h
  have hoffset : shown.offset = _ := scroll.offset_arrange hfirst hlast
  have hmoved : (shown.up 1).row visible = min (scroll.row visible + 1) (visible - 1) := rfl
  rw [offset_arrange _ hfirst hlast, hmoved]
  split <;> omega

end Arranged

end SourceScroll

namespace Explorer

/-- **A key that scrolls the source text moves it by one line or not at all**, with any
`Painter` and in any `Layout`. A drawing shows the marked line in some row and wants it in some
row (`SourceScroll.targetRow`). If these differ, the text is shown from its first line on, or
to its last one. Down moves the text by one line if there is more of it below, the marked line
is not in the top row, and it is not further up than it is wanted; up does so if there is more
of the text above, the marked line is not in the bottom row, and it is not further down than
it is wanted. -/
theorem offset_after_scrolling {e : Explorer} (hfocus : e.focus = .source)
    (hfirst : 1 ≤ e.markedLine) (hlast : e.markedLine ≤ e.sourceLines.size) {γ : Type}
    (painter : Painter γ) (layout : Layout) (canvas : γ) :
    let total := e.sourceLines.size
    let visible := max 1 (layout.source.height - 2)
    let shown := (e.drawWith painter layout canvas).2
    let offset := shown.sourceScroll.offset
    let displayed := shown.markedLine - 1 - offset
    ∃ wanted, shown.sourceScroll.targetRow = some wanted ∧
      (displayed < wanted → offset = 0) ∧ (wanted < displayed → total ≤ offset + visible) ∧
      (∀ key, key = .down ∨ key = .character 'j' →
        ((shown.press key).drawWith painter layout canvas).2.sourceScroll.offset =
          if offset + visible < total ∧ 0 < displayed ∧ wanted ≤ displayed then offset + 1
          else offset) ∧
      ∀ key, key = .up ∨ key = .character 'k' →
        ((shown.press key).drawWith painter layout canvas).2.sourceScroll.offset =
          if 0 < offset ∧ displayed + 1 < visible ∧ displayed ≤ wanted then offset - 1
          else offset := by
  intro total visible shown offset displayed
  have hvisible : 0 < visible := Nat.le_max_left _ _
  have hview : shown.sourceScroll.InView shown.markedLine total visible
      (e.sourceScroll.row visible) := e.sourceScroll.inView_arrange hvisible hfirst hlast
  refine ⟨e.sourceScroll.row visible, rfl, hview.offset_eq_zero, hview.total_le, ?_, ?_⟩
  · intro key hkey
    have hpress : shown.press key =
        { shown with sourceScroll := shown.sourceScroll.down 1 } := by
      rcases hkey with rfl | rfl <;> exact moveDown_of_source 1 hfocus
    rw [hpress]
    exact e.sourceScroll.offset_down hvisible hfirst hlast
  · intro key hkey
    have hpress : shown.press key =
        { shown with sourceScroll := shown.sourceScroll.up 1 } := by
      rcases hkey with rfl | rfl <;> exact moveUp_of_source 1 hfocus
    rw [hpress]
    exact e.sourceScroll.offset_up hvisible hfirst hlast

/-- In a pane of three rows the second line stands in the middle, where it is wanted. One line
down, it stands at the top. -/
theorem offset_after_scrolling_down :
    let e := (ofProgram spacedProgram spacedText).after [.press .endKey, .press .tab]
    let shown := (e.draw 20 6).2
    e.focus = .source ∧ (1 ≤ e.markedLine ∧ e.markedLine ≤ e.sourceLines.size) ∧
      shown.sourceScroll = ⟨0, some 1⟩ ∧
      ((shown.press .down).draw 20 6).2.sourceScroll.offset = 1 := by
  intro e shown
  have hfocus : e.focus = .source := by decide +kernel
  have hbounds : 1 ≤ e.markedLine ∧ e.markedLine ≤ e.sourceLines.size := by decide +kernel
  have hscroll : shown.sourceScroll = ⟨0, some 1⟩ := by decide +kernel
  refine ⟨hfocus, hbounds, hscroll, ?_⟩
  obtain ⟨wanted, hwanted, -, -, hdown, -⟩ :=
    offset_after_scrolling hfocus hbounds.1 hbounds.2 .onScreen (.ofSize 20 6) (.blank 20 6)
  have hrow : shown.sourceScroll.targetRow = some 1 := by rw [hscroll]
  obtain rfl : 1 = wanted := Option.some.inj (hrow.symm.trans hwanted)
  calc ((shown.press .down).draw 20 6).2.sourceScroll.offset
      = shown.sourceScroll.offset + 1 :=
        (hdown .down (.inl rfl)).trans (if_pos (by decide +kernel))
    _ = 1 := by rw [hscroll]

/-- The second line of five stands in the second row, though it is wanted in the third one. There
is more of the text below, and still the key moves nothing. -/
theorem scrolling_without_effect :
    let drawing := .draw (.ofSize 20 7)
    let shown := (ofProgram spacedProgram spacedText).after
      [drawing, .press (.character 'G'), drawing, .press .tab, drawing]
    let visible := max 1 ((Layout.ofSize 20 7).source.height - 2)
    (parse (Cursor.ofText spacedText)).1 = .ok spacedProgram ∧ shown.focus = .source ∧
      (1 ≤ shown.markedLine ∧ shown.markedLine ≤ shown.sourceLines.size) ∧
      shown.sourceScroll.offset + visible < shown.sourceLines.size ∧
      shown.sourceScroll.offset < shown.markedLine - 1 ∧
      ((shown.press .down).draw 20 7).2.sourceScroll.offset = shown.sourceScroll.offset :=
  ⟨parse_spacedText, by decide +kernel⟩

end Explorer

end SyntaxExplorer
