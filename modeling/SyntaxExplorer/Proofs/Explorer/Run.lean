import Mathlib.Data.List.Induction
import SyntaxExplorer.Proofs.Explorer.OutlineView
import SyntaxExplorer.Proofs.Explorer.Window

/-!
# SyntaxExplorer.Proofs.Explorer.Run

**What holds of an explorer, whatever is done with it.** Keys are pressed and the explorer is
drawn, in any order and in any layout (`Explorer.Event`). A key selects a line, scrolls the
source text, or does neither (`Explorer.Pressed`), and drawing does no more than to bring the
offsets in line, whatever painter it is done with (`Explorer.drawWith_snd`).

So the selected line is always one of the outline, the status tells it from the first
selection on, and every drawing shows it behind the one cursor
(`selection_is_shown`).
-/

namespace SyntaxExplorer

namespace Key

/-- The keys that move: the selection, or the source text below the marked line. -/
def moving : List Key := [.up, .character 'k', .down, .character 'j', .pageUp, .pageDown]

/-- The keys that go to an end of the outline. -/
def jumping : List Key := [.home, .character 'g', .endKey, .character 'G']

/-- What `Key.action` makes of a key, by its group. -/
theorem action_cases (key : Key) :
    (key ∈ moving ∧ ∃ n, key.action = .moveUp n ∨ key.action = .moveDown n) ∨
    (key ∈ jumping ∧ (key.action = .selectFirst ∨ key.action = .selectLast)) ∨
    (key ∉ moving ∧ key ∉ jumping ∧
      (key.action = .quit ∨ key.action = .switchFocus ∨ key.action = .nothing)) := by
  unfold action
  split <;> simp_all [moving, jumping]

end Key

namespace Explorer

/-! ### Events -/

/-- What happens to an explorer: a key is pressed, or it is drawn in some layout. -/
inductive Event
  | press (key : Key)
  | draw (layout : Layout)
  deriving DecidableEq

/-- Paint nothing. -/
def Painter.idle : Painter Unit := ⟨fun _ _ _ _ _ => (), fun _ _ _ => ()⟩

/-- The explorer behind an event. It is the same with any `Painter` (`drawWith_snd`). -/
def handle (e : Explorer) : Event → Explorer
  | .press key => e.press key
  | .draw layout => (e.drawWith .idle layout ()).2

/-- The explorer behind some events, each of which it `handle`s. -/
def after (e : Explorer) (events : List Event) : Explorer := events.foldl handle e

@[simp] theorem after_nil (e : Explorer) : e.after [] = e := rfl

@[simp] theorem after_cons (e : Explorer) (event : Event) (events : List Event) :
    e.after (event :: events) = (e.handle event).after events := rfl

theorem after_concat (e : Explorer) (events : List Event) (event : Event) :
    e.after (events ++ [event]) = (e.after events).handle event :=
  List.foldl_concat ..

/-- `e.Selects key`: pressed in `e`, the key selects a line, be it the one that is selected
already. -/
def Selects (e : Explorer) (key : Key) : Prop :=
  (e.focus = .outline ∧ key ∈ Key.moving) ∨ key ∈ Key.jumping

/-- `e.Scrolls key`: pressed in `e`, the key scrolls the source text. -/
def Scrolls (e : Explorer) (key : Key) : Prop := e.focus = .source ∧ key ∈ Key.moving

instance (e : Explorer) (key : Key) : Decidable (e.Selects key) :=
  inferInstanceAs (Decidable (_ ∨ _))

instance (e : Explorer) (key : Key) : Decidable (e.Scrolls key) :=
  inferInstanceAs (Decidable (_ ∧ _))

/-- A key that `Scrolls` does not also `Selects`. -/
theorem Scrolls.not_selects {e : Explorer} {key : Key} (h : e.Scrolls key) : ¬ e.Selects key := by
  have hgroups : ∀ k ∈ Key.moving, k ∉ Key.jumping := by decide
  rintro (⟨hfocus, -⟩ | hjumping)
  · rw [h.1] at hfocus
    cases hfocus
  · exact hgroups key h.2 hjumping

/-! ### What an event does -/

section Moves

variable {e : Explorer} (n : Nat)

theorem moveUp_of_source (h : e.focus = .source) :
    e.moveUp n = { e with sourceScroll := e.sourceScroll.up n } := by
  simp only [moveUp, h]

theorem moveDown_of_source (h : e.focus = .source) :
    e.moveDown n = { e with sourceScroll := e.sourceScroll.down n } := by
  simp only [moveDown, h]

end Moves

/-- `Pressed e key e'`: what may become of `e` when `key` is pressed. -/
inductive Pressed (e : Explorer) (key : Key) : Explorer → Prop
  | selects (index : Nat) : e.Selects key → Pressed e key (e.select index)
  | scrolls (row : Option Nat) : e.Scrolls key →
      Pressed e key { e with sourceScroll := { e.sourceScroll with targetRow := row } }
  | other (focus : Focus) (isQuitting : Bool) : ¬ e.Selects key → ¬ e.Scrolls key →
      Pressed e key { e with focus, isQuitting }

/-- A key of `Key.moving` selects a line or scrolls the source text, as the focus has it. -/
theorem Pressed.of_moving {e : Explorer} {key : Key} (hkey : key ∈ Key.moving) (index : Nat)
    (row : Option Nat) :
    Pressed e key (match e.focus with
      | .source => { e with sourceScroll := { e.sourceScroll with targetRow := row } }
      | .outline => e.select index) := by
  split
  · rename_i hfocus
    exact .scrolls row ⟨hfocus, hkey⟩
  · rename_i hfocus
    exact .selects index (.inl ⟨hfocus, hkey⟩)

theorem pressed (e : Explorer) (key : Key) : e.Pressed key (e.press key) := by
  unfold press
  rcases key.action_cases with ⟨hkey, n, haction | haction⟩ | ⟨hkey, haction | haction⟩ |
    ⟨hmoving, hjumping, haction⟩
  · rw [haction]
    exact .of_moving hkey _ _
  · rw [haction]
    exact .of_moving hkey _ _
  · rw [haction]
    exact .selects _ (.inr hkey)
  · rw [haction]
    exact .selects _ (.inr hkey)
  · have hselects : ¬ e.Selects key := fun h => h.elim (fun h => hmoving h.2) hjumping
    have hscrolls : ¬ e.Scrolls key := fun h => hmoving h.2
    rcases haction with haction | haction | haction <;> rw [haction]
    · exact .other e.focus true hselects hscrolls
    · exact .other e.focus.next e.isQuitting hselects hscrolls
    · exact .other e.focus e.isQuitting hselects hscrolls

/-- `select` selects a line, which the status tells, unless there is no line at all. -/
theorem select_cases (e : Explorer) (index : Nat) :
    (e.lines.size = 0 ∧ e.select index = e) ∨
    ∃ i line, e.lines[i]? = some line ∧ e.select index =
      { e with selected := i, status := line.kind.label ++ " at " ++ line.location.text } := by
  unfold select
  split
  · rename_i line hline
    exact .inr ⟨_, line, hline, rfl⟩
  · rename_i hnone
    rw [Array.getElem?_eq_none_iff] at hnone
    exact .inl ⟨by omega, rfl⟩

/-- `drawWith` scrolls both panes and changes nothing else, whatever the painter. -/
theorem drawWith_snd {γ : Type} (e : Explorer) (painter : Painter γ) (layout : Layout)
    (canvas : γ) :
    (e.drawWith painter layout canvas).2 =
      { e with
        sourceScroll := e.sourceScroll.arrange e.markedLine e.sourceLines.size
          (Frame.visibleLines layout.source.height)
        outlineOffset := OutlineView.follow e.outlineOffset e.selected
          (Frame.visibleLines layout.outline.height) } :=
  rfl

/-! ### What every run keeps -/

/-- `e.Shows p source`: the explorer shows this program, and this is its source text. -/
structure Shows (e : Explorer) (p : Program) (source : String) : Prop where
  program : e.program = p
  text : e.text = source
  lines : e.lines = p.outlineLines

theorem Shows.handle {e : Explorer} {p : Program} {source : String} (h : e.Shows p source)
    (event : Event) : (e.handle event).Shows p source := by
  obtain ⟨hprogram, htext, hlines⟩ := h
  cases event with
  | press key =>
      show (e.press key).Shows p source
      have hpressed := e.pressed key
      generalize e.press key = e' at hpressed
      cases hpressed with
      | selects index =>
          rcases e.select_cases index with ⟨-, heq⟩ | ⟨i, line, -, heq⟩ <;> rw [heq] <;>
            exact ⟨hprogram, htext, hlines⟩
      | scrolls | other => exact ⟨hprogram, htext, hlines⟩
  | draw layout => exact ⟨hprogram, htext, hlines⟩

theorem Shows.after {e : Explorer} {p : Program} {source : String} (h : e.Shows p source)
    (events : List Event) : (e.after events).Shows p source := by
  induction events generalizing e with
  | nil => exact h
  | cons event events ih => exact ih (h.handle event)

theorem shows_ofProgram (p : Program) (source : String) : (ofProgram p source).Shows p source :=
  ⟨rfl, rfl, rfl⟩

/-! ### The selection -/

/-- Among the events a key was pressed that `Selects` a line. -/
def HasSelected (e : Explorer) (events : List Event) : Prop :=
  ∃ before key later, events = before ++ .press key :: later ∧ (e.after before).Selects key

theorem hasSelected_concat (e : Explorer) (events : List Event) (event : Event) :
    e.HasSelected (events ++ [event]) ↔
      e.HasSelected events ∨ ∃ key, event = .press key ∧ (e.after events).Selects key := by
  constructor
  · rintro ⟨before, key, later, hevents, hselects⟩
    obtain rfl | ⟨later, last, rfl⟩ := List.eq_nil_or_concat later
    · obtain ⟨rfl, hlast⟩ := List.append_inj' hevents rfl
      exact .inr ⟨key, (List.cons.inj hlast).1, hselects⟩
    · rw [List.concat_eq_append, ← List.cons_append, ← List.append_assoc] at hevents
      obtain ⟨rfl, -⟩ := List.append_inj' hevents rfl
      exact .inl ⟨before, key, later, rfl, hselects⟩
  · rintro (⟨before, key, later, rfl, hselects⟩ | ⟨key, rfl, hselects⟩)
    · exact ⟨before, key, later ++ [event], by simp, hselects⟩
    · exact ⟨events, key, [], rfl, hselects⟩

/-- A line of the outline is selected. The status greets as long as no key has selected a
line, and tells the selected one from then on. -/
def TellsSelection (e : Explorer) (hasSelected : Prop) : Prop :=
  ∃ line, e.lines[e.selected]? = some line ∧
    ((¬ hasSelected ∧ e.status = "Ready!") ∨
      (hasSelected ∧ e.status = line.kind.label ++ " at " ++ line.location.text))

theorem TellsSelection.press {e : Explorer} {hasSelected : Prop} (h : e.TellsSelection hasSelected)
    (key : Key) : (e.press key).TellsSelection (hasSelected ∨ e.Selects key) := by
  obtain ⟨line, hline, hstatus⟩ := h
  have hpressed := e.pressed key
  generalize e.press key = e' at hpressed
  cases hpressed with
  | selects index hselects =>
      rcases e.select_cases index with ⟨hsize, -⟩ | ⟨i, line, hline, heq⟩
      · rw [Array.getElem?_eq_none (by omega)] at hline
        cases hline
      · rw [heq]
        exact ⟨line, hline, .inr ⟨.inr hselects, rfl⟩⟩
  | scrolls row hscrolls =>
      exact ⟨line, hline, by simpa only [hscrolls.not_selects, or_false] using hstatus⟩
  | other focus isQuitting hselects hscrolls =>
      exact ⟨line, hline, by simpa only [hselects, or_false] using hstatus⟩

theorem TellsSelection.draw {e : Explorer} {hasSelected : Prop} (h : e.TellsSelection hasSelected)
    (layout : Layout) : (e.handle (.draw layout)).TellsSelection hasSelected :=
  h

theorem tellsSelection_ofProgram {p : Program} (hp : p.nodes ≠ []) (source : String) :
    (ofProgram p source).TellsSelection False := by
  obtain ⟨x, xs, hnodes⟩ := List.exists_cons_of_ne_nil hp
  refine ⟨.ofNode x.1 x.2, ?_, .inl ⟨not_false, rfl⟩⟩
  show p.outlineLines[0]? = _
  rw [p.outlineLines_eq, hnodes]
  rfl

theorem tellsSelection_after {p : Program} (hp : p.nodes ≠ []) (source : String)
    (events : List Event) :
    ((ofProgram p source).after events).TellsSelection
      ((ofProgram p source).HasSelected events) := by
  induction events using List.reverseRecOn with
  | nil =>
      have hnone : ¬ (ofProgram p source).HasSelected [] := by
        rintro ⟨before, key, later, hevents, -⟩
        simp at hevents
      simpa only [hnone, after_nil] using tellsSelection_ofProgram hp source
  | append_singleton events event ih =>
      rw [after_concat, hasSelected_concat]
      cases event with
      | press key => simpa [handle] using ih.press key
      | draw layout => simpa using ih.draw layout

/-! ### Drawing the outline -/

/-- **Every drawing shows the selected line behind the one cursor.** What the explorer was
opened on stays as it is, through all keys and drawings. A line of the outline is selected,
and the status tells it as soon as a key has selected one (`HasSelected`). With any `Painter`
and in any `Layout`, `drawWith` moves the outline to the nearest offset with which the selected
line is in the pane, whatever the size of the pane was before; of the rows that are handed to
the painter (`OutlineView.shownLines`), the row of the selected line has the cursor, and no
other one has. -/
theorem selection_is_shown {p : Program} (hp : p.nodes ≠ []) (source : String)
    (events : List Event) :
    let e := (ofProgram p source).after events
    (e.program = p ∧ e.text = source ∧ e.lines = p.outlineLines) ∧
    (∃ line, e.lines[e.selected]? = some line ∧
      ((¬ (ofProgram p source).HasSelected events ∧ e.status = "Ready!") ∨
        ((ofProgram p source).HasSelected events ∧
          e.status = line.kind.label ++ " at " ++ line.location.text))) ∧
    ∀ {γ : Type} (painter : Painter γ) (layout : Layout) (canvas : γ),
      let visible := max 1 (layout.outline.height - 2)
      let drawn := (e.drawWith painter layout canvas).2
      let rows := OutlineView.shownLines drawn.lines drawn.selected drawn.outlineOffset visible
      (drawn.outlineOffset ≤ drawn.selected ∧ drawn.selected < drawn.outlineOffset + visible) ∧
      (∀ offset, offset ≤ drawn.selected → drawn.selected < offset + visible →
        offset ≠ drawn.outlineOffset →
        Nat.dist e.outlineOffset drawn.outlineOffset < Nat.dist e.outlineOffset offset) ∧
      (∃ behind, (e.drawWith painter layout canvas).1 =
        painter.statusLine (painter.pane behind layout.outline OutlineView.title
          (e.focus = .outline) rows) layout.status e.statusLine) ∧
      (∃ line, drawn.lines[drawn.selected]? = some line ∧
        rows[drawn.selected - drawn.outlineOffset]? = some (OutlineView.shownLine line true)) ∧
      ∀ i row, rows[i]? = some row →
        (row.head? = some (OutlineView.cursor true) ↔ i = drawn.selected - drawn.outlineOffset) := by
  intro e
  obtain ⟨hprogram, htext, hlines⟩ := (shows_ofProgram p source).after events
  obtain ⟨line, hline, hstatus⟩ := tellsSelection_after hp source events
  refine ⟨⟨hprogram, htext, hlines⟩, ⟨line, hline, hstatus⟩, ?_⟩
  intro γ painter layout canvas visible drawn rows
  obtain ⟨hle, hlt⟩ : drawn.outlineOffset ≤ drawn.selected ∧
      drawn.selected < drawn.outlineOffset + visible :=
    OutlineView.follow_spec (Nat.le_max_left _ _)
  refine ⟨⟨hle, hlt⟩, ?_, ⟨_, rfl⟩, ⟨line, hline, ?_⟩, ?_⟩
  · intro offset hoffset hend hne
    exact OutlineView.dist_follow_lt hne hoffset hend
  · exact OutlineView.getElem?_shownLines hle hlt hline
  · intro i row hrow
    exact OutlineView.head?_shownLines_iff hle hrow

/-- A page down goes to the last of three lines, and scrolling the source text does not change
the status. A pane of two rows then shows the last two lines, though the last one alone would
be a line of the outline as well. -/
theorem selection_is_shown_in_two_rows :
    let p : Program := ⟨[⟨"f", .int, [], [.returnValue none ⟨2, 1⟩], .start⟩]⟩
    let start := ofProgram p "int f() \x7b\nreturn;\n\x7d"
    let events := [.draw (.ofSize 20 9), .press .pageDown, .press .tab, .press .up]
    let e := start.after events
    let drawn := (e.draw 20 5).2
    let rows := OutlineView.shownLines drawn.lines drawn.selected drawn.outlineOffset 2
    p.nodes ≠ [] ∧ start.HasSelected events ∧ e.status = "return at line 2, column 1" ∧
      drawn.selected = 2 ∧ drawn.outlineOffset = 1 ∧
      Nat.dist e.outlineOffset drawn.outlineOffset < Nat.dist e.outlineOffset 2 ∧
      ∃ row, rows[1]? = some row ∧ row.head? = some (OutlineView.cursor true) := by
  intro p start events e drawn rows
  have hp : p.nodes ≠ [] := by decide +kernel
  have hselected : start.HasSelected events :=
    ⟨[.draw (.ofSize 20 9)], .pageDown, [.press .tab, .press .up], rfl, by decide +kernel⟩
  have htwo : drawn.selected = 2 := by decide +kernel
  have hone : drawn.outlineOffset = 1 := by decide +kernel
  obtain ⟨-, ⟨line, hline, hstatus⟩, hdraw⟩ :=
    selection_is_shown hp "int f() \x7b\nreturn;\n\x7d" events
  obtain ⟨-, hnearest, -, ⟨shown, -, hshown⟩, hrows⟩  :=
    hdraw .onScreen (.ofSize 20 5) (.blank 20 5)
  have hfirst : drawn.selected - drawn.outlineOffset = 1 := by rw [htwo, hone]
  have hsecond : rows[1]? = some (OutlineView.shownLine shown true) := by
    rw [← hfirst]
    exact hshown
  refine ⟨hp, hselected, ?_, htwo, hone, ?_, ⟨_, hsecond, (hrows 1 _ hsecond).2 hfirst.symm⟩⟩
  · have hreturn : e.lines[e.selected]? = some ⟨0, .returnValue, none, ⟨2, 1⟩⟩ := by
      decide +kernel
    obtain rfl := Option.some.inj (hreturn.symm.trans hline)
    rcases hstatus with ⟨hnone, -⟩ | ⟨-, htold⟩
    · exact absurd hselected hnone
    · rw [htold]
      decide +kernel
  · exact hnearest 2 (Nat.le_of_eq htwo.symm) (by decide +kernel) (by decide +kernel)

end Explorer

end SyntaxExplorer
