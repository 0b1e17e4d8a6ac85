import SyntaxExplorer.Proofs.Explorer.Run

/-!
# SyntaxExplorer.Proofs.Explorer.Independence

**The two panes do not interfere.** Two runs are compared that differ only in keys of one kind,
pressed where they have it. Without those presses they are the same run
(`Explorer.without`), and a part of the explorer that no such key changes, and that no other
event brings anything into, is the same behind both (`view_after`).

Keys that scroll the source text leave everything but its scrolling alone
(`outlineSide`), and keys that select a line leave alone the row that is wanted, the focus and
whether the explorer quits (`sourceSide`). Hence `panes_do_not_interfere`.
-/

namespace SyntaxExplorer.Explorer

/-! ### Runs without some keys -/

section Without

variable (hidden : Explorer → Key → Prop) [∀ e key, Decidable (hidden e key)]

/-- The events, without the presses that are `hidden` where they happen. -/
def without (e : Explorer) : List Event → List Event
  | [] => []
  | .press key :: events =>
    if hidden e key then without (e.press key) events
    else .press key :: without (e.press key) events
  | .draw layout :: events => .draw layout :: without (e.handle (.draw layout)) events

theorem without_append (e : Explorer) (events later : List Event) :
    e.without hidden (events ++ later) =
      e.without hidden events ++ (e.after events).without hidden later := by
  induction events generalizing e with
  | nil => rfl
  | cons event events ih =>
      cases event with
      | press key =>
          simp only [List.cons_append, without, after_cons, handle, ih]
          split <;> rfl
      | draw layout => simp only [List.cons_append, without, after_cons, ih]

variable {hidden}

/-- Two runs that are the same `without` what is hidden are so behind as many events that are
not. -/
theorem without_eq_of_prefix {e : Explorer} {events₁ events₂ before₁ before₂ : List Event}
    (h : e.without hidden events₁ = e.without hidden events₂) (hbefore₁ : before₁ <+: events₁)
    (hbefore₂ : before₂ <+: events₂)
    (hlength : (e.without hidden before₁).length = (e.without hidden before₂).length) :
    e.without hidden before₁ = e.without hidden before₂ := by
  obtain ⟨later₁, rfl⟩ := hbefore₁
  obtain ⟨later₂, rfl⟩ := hbefore₂
  rw [without_append, without_append] at h
  exact (List.append_inj h hlength).1

/-- A `view` that no hidden press changes, and that every event takes from the view before, is
as if the hidden presses had not happened. -/
theorem view_after {α : Type} {view : Explorer → α}
    (hhidden : ∀ e key, hidden e key → view (e.press key) = view e)
    (hhandle : ∀ e₁ e₂ event, view e₁ = view e₂ → view (e₁.handle event) = view (e₂.handle event))
    {e₁ e₂ : Explorer} (h : view e₁ = view e₂) (events : List Event) :
    view (e₁.after events) = view (e₂.after (e₁.without hidden events)) := by
  induction events generalizing e₁ e₂ with
  | nil => exact h
  | cons event events ih =>
      cases event with
      | press key =>
          rw [after_cons, without]
          by_cases hkey : hidden e₁ key
          · rw [if_pos hkey]
            exact ih ((hhidden e₁ key hkey).trans h)
          · rw [if_neg hkey, after_cons]
            exact ih (hhandle e₁ e₂ (.press key) h)
      | draw layout =>
          rw [after_cons, without, after_cons]
          exact ih (hhandle e₁ e₂ (.draw layout) h)

theorem view_eq_of_without_eq {α : Type} {view : Explorer → α}
    (hhidden : ∀ e key, hidden e key → view (e.press key) = view e)
    (hhandle : ∀ e₁ e₂ event, view e₁ = view e₂ → view (e₁.handle event) = view (e₂.handle event))
    {e : Explorer} {events₁ events₂ : List Event}
    (h : e.without hidden events₁ = e.without hidden events₂) :
    view (e.after events₁) = view (e.after events₂) := by
  rw [view_after hhidden hhandle rfl events₁, h, ← view_after hhidden hhandle rfl events₂]

end Without

/-! ### What scrolling the source text leaves alone -/

/-- Everything but how the source text is scrolled. -/
def outlineSide (e : Explorer) : Explorer := { e with sourceScroll := .start }

theorem outlineSide_press_of_scrolls (e : Explorer) (key : Key) (h : e.Scrolls key) :
    (e.press key).outlineSide = e.outlineSide := by
  have hpressed := e.pressed key
  generalize e.press key = e' at hpressed
  cases hpressed with
  | selects index hselects => exact absurd hselects h.not_selects
  | scrolls => rfl
  | other focus isQuitting hselects hscrolls => exact absurd h hscrolls

theorem outlineSide_select (e : Explorer) (index : Nat) :
    (e.select index).outlineSide = (e.outlineSide.select index).outlineSide := by
  have hlines : e.outlineSide.lines = e.lines := rfl
  rw [select, select, hlines]
  split <;> rfl

/-- What `perform` does to the `outlineSide` follows from the `outlineSide`. -/
theorem outlineSide_perform (e : Explorer) (action : Action) :
    (e.perform action).outlineSide = (e.outlineSide.perform action).outlineSide := by
  have hfocus : e.outlineSide.focus = e.focus := rfl
  cases action with
  | moveUp n | moveDown n =>
      simp only [perform, moveUp, moveDown, hfocus]
      cases e.focus with
      | source => rfl
      | outline => exact e.outlineSide_select _
  | selectFirst | selectLast => exact e.outlineSide_select _
  | quit | switchFocus | nothing => rfl

theorem outlineSide_handle (e : Explorer) (event : Event) :
    (e.handle event).outlineSide = (e.outlineSide.handle event).outlineSide := by
  cases event with
  | press key => exact e.outlineSide_perform key.action
  | draw layout => rfl

/-! ### What selecting a line leaves alone -/

/-- The row that is wanted in the source text, the focus, and whether the explorer quits. -/
def sourceSide (e : Explorer) : Option Nat × Focus × Bool :=
  (e.sourceScroll.targetRow, e.focus, e.isQuitting)

theorem sourceSide_select (e : Explorer) (index : Nat) :
    (e.select index).sourceSide = e.sourceSide := by
  rcases e.select_cases index with ⟨-, heq⟩ | ⟨i, line, -, heq⟩
  · rw [heq]
  · rw [heq]
    rfl

theorem sourceSide_press_of_selects (e : Explorer) (key : Key) (h : e.Selects key) :
    (e.press key).sourceSide = e.sourceSide := by
  have hpressed := e.pressed key
  generalize e.press key = e' at hpressed
  cases hpressed with
  | selects index => exact e.sourceSide_select index
  | scrolls row hscrolls => exact absurd h hscrolls.not_selects
  | other focus isQuitting hselects => exact absurd h hselects

/-- What `perform` does to the `sourceSide` follows from the `sourceSide`. -/
theorem sourceSide_perform {e₁ e₂ : Explorer} (h : e₁.sourceSide = e₂.sourceSide)
    (action : Action) : (e₁.perform action).sourceSide = (e₂.perform action).sourceSide := by
  have hside := h
  simp only [sourceSide, Prod.mk.injEq] at hside
  obtain ⟨hrow, hfocus, hquitting⟩ := hside
  cases action with
  | moveUp n | moveDown n =>
      simp only [perform, moveUp, moveDown, hfocus]
      cases e₂.focus with
      | source => simp [sourceSide, SourceScroll.up, SourceScroll.down, hrow, hquitting]
      | outline => rw [sourceSide_select, sourceSide_select, h]
  | selectFirst | selectLast => rw [perform, perform, sourceSide_select, sourceSide_select, h]
  | quit | switchFocus | nothing => simp [perform, sourceSide, hrow, hfocus, hquitting]

theorem sourceSide_handle (e₁ e₂ : Explorer) (event : Event) (h : e₁.sourceSide = e₂.sourceSide) :
    (e₁.handle event).sourceSide = (e₂.handle event).sourceSide := by
  cases event with
  | press key => exact sourceSide_perform h key.action
  | draw layout =>
      simp only [sourceSide, Prod.mk.injEq] at h
      obtain ⟨hrow, hfocus, hquitting⟩ := h
      simp [handle, drawWith_snd, sourceSide, SourceScroll.arrange, SourceScroll.row, hrow, hfocus,
        hquitting]

/-! ### Two runs -/

/-- **The two panes do not interfere.** Take two runs of an explorer that are the same
`without` the presses that `Scrolls` tells of. After as many of the other events, the two
explorers have the same selection, status and focus, either both quit or neither, and they show
the outline from the same line on. If the runs are the same `without` the presses that
`Selects` tells of, the two want the marked line in the same row, have the same focus, and
either both quit or neither. -/
theorem panes_do_not_interfere (e : Explorer) (events₁ events₂ : List Event) :
    (e.without Scrolls events₁ = e.without Scrolls events₂ →
      ∀ before₁ before₂, before₁ <+: events₁ → before₂ <+: events₂ →
        (e.without Scrolls before₁).length = (e.without Scrolls before₂).length →
        let e₁ := e.after before₁
        let e₂ := e.after before₂
        e₁.selected = e₂.selected ∧ e₁.status = e₂.status ∧ e₁.focus = e₂.focus ∧
          e₁.isQuitting = e₂.isQuitting ∧ e₁.outlineOffset = e₂.outlineOffset) ∧
    (e.without Selects events₁ = e.without Selects events₂ →
      ∀ before₁ before₂, before₁ <+: events₁ → before₂ <+: events₂ →
        (e.without Selects before₁).length = (e.without Selects before₂).length →
        let e₁ := e.after before₁
        let e₂ := e.after before₂
        e₁.sourceScroll.targetRow = e₂.sourceScroll.targetRow ∧ e₁.focus = e₂.focus ∧
          e₁.isQuitting = e₂.isQuitting) := by
  refine ⟨?_, ?_⟩
  · intro hsame before₁ before₂ hbefore₁ hbefore₂ hlength e₁ e₂
    have hwithout := without_eq_of_prefix hsame hbefore₁ hbefore₂ hlength
    have hside : e₁.outlineSide = e₂.outlineSide := by
      refine view_eq_of_without_eq outlineSide_press_of_scrolls ?_ hwithout
      intro e₁ e₂ event h
      rw [outlineSide_handle, h, ← outlineSide_handle]
    simp only [outlineSide, mk.injEq] at hside
    obtain ⟨-, -, -, hselected, hfocus, -, hoffset, hquitting, hstatus⟩ := hside
    exact ⟨hselected, hstatus, hfocus, hquitting, hoffset⟩
  · intro hsame before₁ before₂ hbefore₁ hbefore₂ hlength e₁ e₂
    have hwithout := without_eq_of_prefix hsame hbefore₁ hbefore₂ hlength
    have hside : e₁.sourceSide = e₂.sourceSide :=
      view_eq_of_without_eq sourceSide_press_of_selects sourceSide_handle hwithout
    simpa only [sourceSide, Prod.mk.injEq] using hside

/-- In the first two runs the source text ends up on different lines, and the same line of the
outline is selected. In the other two, different lines are selected, and the marked line is
wanted in the same row. -/
theorem panes_do_not_interfere_return :
    let e := ofProgram ⟨[⟨"f", .int, [], [.returnValue none ⟨2, 1⟩], .start⟩]⟩
      "int f() \x7b\nreturn;\n\n\n\x7d"
    let small := .draw (.ofSize 20 6)
    let scrolled := [.press .down, .press .tab, small, .press .down, small, .press .tab,
      .press .endKey]
    let still := [.press .down, .press .tab, small, .press (.character 'k'), .press .pageUp,
      small, .press .tab, .press .endKey]
    let low := [.draw (.ofSize 20 7), .press .pageDown, .press .tab, .press .up]
    let high := [.draw (.ofSize 20 7), .press .tab, .press .home, .press .up]
    (e.without Scrolls scrolled = e.without Scrolls still ∧
      (e.after scrolled).sourceScroll ≠ (e.after still).sourceScroll ∧
      (e.after scrolled).selected = (e.after still).selected) ∧
    e.without Selects low = e.without Selects high ∧
      (e.after low).selected ≠ (e.after high).selected ∧
      (e.after low).sourceScroll.targetRow = (e.after high).sourceScroll.targetRow := by
  intro e small scrolled still low high
  have hscrolls : e.without Scrolls scrolled = e.without Scrolls still := by decide +kernel
  have hselects : e.without Selects low = e.without Selects high := by decide +kernel
  obtain ⟨hsource, -⟩ := panes_do_not_interfere e scrolled still
  obtain ⟨-, houtline⟩ := panes_do_not_interfere e low high
  obtain ⟨hselected, -⟩ := hsource hscrolls _ _ (List.prefix_refl _) (List.prefix_refl _)
    (congrArg List.length hscrolls)
  obtain ⟨hrow, -⟩ := houtline hselects _ _ (List.prefix_refl _) (List.prefix_refl _)
    (congrArg List.length hselects)
  exact ⟨⟨hscrolls, by decide +kernel, hselected⟩, hselects, by decide +kernel, hrow⟩

end SyntaxExplorer.Explorer
