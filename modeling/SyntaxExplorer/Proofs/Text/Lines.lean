import SyntaxExplorer.Location
import SyntaxExplorer.Text.Lines

/-!
# SyntaxExplorer.Proofs.Text.Lines

**The lines of a text and the locations in it agree.** The lines are cut at the
line feeds (`lines_append_lineFeed`), and a location counts the line feeds in
front of it. So the line of a location is one of the lines, and around the
column of the location stands what stands there in the text
(`exists_line_at`). A carriage return at the end of a line is no part of it, and
neither lines nor columns are disturbed by that.
-/

namespace SyntaxExplorer.Text

/-! ### Cutting at line feeds -/

theorem linesFrom_eq (before : List (List Char)) (line cs : List Char) :
    linesFrom before line cs = before.reverse ++ linesFrom [] line cs := by
  induction cs generalizing before line with
  | nil =>
      simp only [linesFrom]
      split <;> simp
  | cons c cs ih =>
      by_cases hc : c = '\n'
      · simp only [linesFrom, if_pos hc]
        rw [ih (closeLine line :: before), ih [closeLine line]]
        simp
      · simp only [linesFrom, if_neg hc]
        exact ih before (c :: line)

theorem linesFrom_append_lineFeed (line l cs : List Char) (h : '\n' ∉ l) :
    linesFrom [] line (l ++ '\n' :: cs) = closeLine (l.reverse ++ line) :: lines cs := by
  induction l generalizing line with
  | nil =>
      simp only [List.nil_append, linesFrom, if_true, List.reverse_nil]
      rw [linesFrom_eq]
      rfl
  | cons c l ih =>
      rw [List.mem_cons, not_or] at h
      simp only [List.cons_append, linesFrom, if_neg (Ne.symm h.1), ih (c :: line) h.2]
      simp

/-- What stands in front of the first line feed is the first of the `lines`, closed by
`closeLine`. -/
theorem lines_append_lineFeed {l : List Char} (h : '\n' ∉ l) (cs : List Char) :
    lines (l ++ '\n' :: cs) = closeLine l.reverse :: lines cs := by
  rw [lines, linesFrom_append_lineFeed [] l cs h, List.append_nil]

theorem linesFrom_of_not_mem (line l : List Char) (h : '\n' ∉ l) (hne : l.reverse ++ line ≠ []) :
    linesFrom [] line l = [line.reverse ++ l] := by
  induction l generalizing line with
  | nil =>
      have hline : line.isEmpty = false := by simpa using hne
      simp [linesFrom, hline]
  | cons c l ih =>
      rw [List.mem_cons, not_or] at h
      simp only [linesFrom, if_neg (Ne.symm h.1)]
      rw [ih (c :: line) h.2 (by simp)]
      simp

/-- Lines that are all ended are the `lines` of their text, each closed by `closeLine`. -/
theorem lines_flatMap_lineFeed (ls : List (List Char)) (h : ∀ l ∈ ls, '\n' ∉ l) :
    lines (ls.flatMap fun l => l ++ ['\n']) = ls.map fun l => closeLine l.reverse := by
  induction ls with
  | nil => rfl
  | cons l ls ih =>
      rw [List.forall_mem_cons] at h
      rw [List.flatMap_cons, List.append_assoc, List.singleton_append,
        lines_append_lineFeed h.1, ih h.2, List.map_cons]

/-- What is left of a line, up to the line feed. -/
def lineRest (cs : List Char) : List Char := cs.takeWhile fun c => c != '\n'

theorem not_mem_lineRest (cs : List Char) : '\n' ∉ lineRest cs := by
  intro h
  have hall := List.all_eq_true.1 (List.all_takeWhile (p := fun c => c != '\n') (l := cs)) _ h
  simp at hall

theorem lineRest_append_lineFeed {l : List Char} (h : '\n' ∉ l) (cs : List Char) :
    lineRest (l ++ '\n' :: cs) = l := by
  rw [lineRest, List.takeWhile_append_of_pos]
  · simp
  · intro c hc
    simpa using fun heq : c = '\n' => h (heq ▸ hc)

/-- The text of some lines that are all ended determines the lines. -/
theorem flatMap_lineFeed_inj {ls ms : List (List Char)} (hls : ∀ l ∈ ls, '\n' ∉ l)
    (hms : ∀ m ∈ ms, '\n' ∉ m)
    (h : (ls.flatMap fun l => l ++ ['\n']) = ms.flatMap fun m => m ++ ['\n']) : ls = ms := by
  induction ls generalizing ms with
  | nil => cases ms <;> simp_all
  | cons l ls ih =>
      cases ms with
      | nil => simp at h
      | cons m ms =>
          rw [List.forall_mem_cons] at hls hms
          simp only [List.flatMap_cons, List.append_assoc, List.singleton_append] at h
          have hfirst := congrArg lineRest h
          rw [lineRest_append_lineFeed hls.1, lineRest_append_lineFeed hms.1] at hfirst
          subst hfirst
          rw [ih hls.2 hms.2 (List.cons.inj (List.append_cancel_left h)).2]

/-! ### The ends of lines -/

/-- `closeLine` leaves a line alone that does not end with a carriage return. -/
theorem closeLine_of_getLast {l : List Char} (h : l.getLast? ≠ some '\r') :
    closeLine l.reverse = l := by
  rw [← List.head?_reverse] at h
  unfold closeLine
  split
  · rename_i hl
    simp [hl] at h
  · exact List.reverse_reverse l

theorem closeLine_append_return (l : List Char) : closeLine (l ++ ['\r']).reverse = l := by
  simp [closeLine]

/-- `closeLine` drops a carriage return or nothing. -/
theorem closeLine_cases (l : List Char) :
    closeLine l.reverse = l ∨ l = closeLine l.reverse ++ ['\r'] := by
  by_cases h : l.getLast? = some '\r'
  · obtain ⟨l, rfl⟩ := List.getLast?_eq_some_iff.1 h
    exact .inr (by rw [closeLine_append_return])
  · exact .inl (closeLine_of_getLast h)

/-- `closeLine` concerns the last character only. -/
theorem closeLine_append (l m : List Char) (hm : m ≠ []) :
    closeLine (l ++ m).reverse = l ++ closeLine m.reverse := by
  obtain rfl | ⟨m, c, rfl⟩ := List.eq_nil_or_concat m
  · exact absurd rfl hm
  · rw [List.concat_eq_append, ← List.append_assoc]
    by_cases hc : c = '\r'
    · subst hc
      rw [closeLine_append_return, closeLine_append_return]
    · rw [closeLine_of_getLast (by simpa using hc), closeLine_of_getLast (by simpa using hc),
        List.append_assoc]

/-! ### Locations -/

/-- A text is its `lineRest`, or has more behind a line feed. -/
theorem lineRest_cases (cs : List Char) :
    cs = lineRest cs ∨ ∃ more, cs = lineRest cs ++ '\n' :: more := by
  have hcut := List.takeWhile_append_dropWhile (p := fun c => c != '\n') (l := cs)
  cases hdrop : cs.dropWhile fun c => c != '\n' with
  | nil =>
      rw [hdrop, List.append_nil] at hcut
      exact .inl hcut.symm
  | cons c more =>
      have hc := List.head?_dropWhile_not (fun c => c != '\n') cs
      rw [hdrop] at hc
      obtain rfl : c = '\n' := by simpa using hc
      rw [hdrop] at hcut
      exact .inr ⟨more, hcut.symm⟩

/-- What follows behind a line, without a part of the line: an end of line or nothing at all. -/
def EndsLine (more : List Char) : Prop := ∀ c ∈ more.head?, c = '\n' ∨ c = '\r'

/-- The line that is open where the text `d :: ds` follows. -/
theorem exists_open_line (line : List Char) {d : Char} (hlf : d ≠ '\n') (ds : List Char) :
    ∃ tail more ls, linesFrom [] line (d :: ds) = (line.reverse ++ tail) :: ls ∧
      d :: ds = tail ++ more ∧ EndsLine more := by
  have hne : lineRest (d :: ds) ≠ [] := by simp [lineRest, hlf]
  rcases lineRest_cases (d :: ds) with hrest | ⟨more, hrest⟩
  · have hmem := not_mem_lineRest (d :: ds)
    rw [← hrest] at hmem
    exact ⟨d :: ds, [], [], linesFrom_of_not_mem line _ hmem (by simp),
      (List.append_nil _).symm, by simp [EndsLine]⟩
  · have hlines : linesFrom [] line (d :: ds) =
        (line.reverse ++ closeLine (lineRest (d :: ds)).reverse) :: lines more := by
      rw [← closeLine_append _ _ hne, List.reverse_append, List.reverse_reverse,
        ← linesFrom_append_lineFeed line _ more (not_mem_lineRest _), ← hrest]
    rcases closeLine_cases (lineRest (d :: ds)) with hclose | hclose
    · rw [hclose] at hlines
      exact ⟨_, '\n' :: more, _, hlines, hrest, by simp [EndsLine]⟩
    · rw [hclose, List.append_assoc] at hrest
      exact ⟨_, _, _, hlines, hrest, by simp [EndsLine]⟩

theorem line_le_past (here : Location) (cs : List Char) : here.line ≤ (here.past cs).line := by
  induction cs generalizing here with
  | nil => exact Nat.le_refl _
  | cons c cs ih =>
      refine Nat.le_trans ?_ (ih (here.step c))
      unfold Location.step
      split
      · exact Nat.le_succ _
      · exact Nat.le_refl _

theorem exists_line_from (line pre : List Char) {d : Char} (hlf : d ≠ '\n') (ds : List Char)
    (here : Location) (hcolumn : here.column = line.length + 1) :
    ∃ before after more,
      (linesFrom [] line (pre ++ d :: ds))[(here.past pre).line - here.line]? =
        some (before ++ after) ∧
      before.length + 1 = (here.past pre).column ∧ before <:+ line.reverse ++ pre ∧
      d :: ds = after ++ more ∧ EndsLine more := by
  induction pre generalizing line here with
  | nil =>
      obtain ⟨tail, more, ls, hlines, htail⟩ := exists_open_line line hlf ds
      refine ⟨line.reverse, tail, more, ?_, ?_, ?_, htail⟩
      · simp [hlines]
      · simp [hcolumn]
      · exact ⟨[], (List.append_nil _).symm⟩
  | cons c pre ih =>
      by_cases hc : c = '\n'
      · subst hc
        obtain ⟨before, after, more, hl, hbefore, hsuffix, hafter⟩ :=
          ih [] ⟨here.line + 1, 1⟩ rfl
        refine ⟨before, after, more, ?_, hbefore, ?_, hafter⟩
        · have hle := line_le_past ⟨here.line + 1, 1⟩ pre
          have hindex : (here.past ('\n' :: pre)).line - here.line =
              (Location.past ⟨here.line + 1, 1⟩ pre).line - (here.line + 1) + 1 := by
            simp only [Location.past_cons, Location.step, if_true]
            simp only at hle
            omega
          rw [hindex, List.cons_append, linesFrom, if_pos rfl, linesFrom_eq]
          exact hl
        · have hpre : before <:+ pre := by simpa using hsuffix
          exact (hpre.trans (List.suffix_cons _ _)).trans (List.suffix_append _ _)
      · have hstep : here.step c = ⟨here.line, here.column + 1⟩ := by
          rw [Location.step, if_neg hc]
        obtain ⟨before, after, more, hl, hbefore, hsuffix, hafter⟩ :=
          ih (c :: line) ⟨here.line, here.column + 1⟩ (by simp [hcolumn])
        refine ⟨before, after, more, ?_, ?_, ?_, hafter⟩
        · rw [Location.past_cons, hstep, List.cons_append, linesFrom, if_neg hc]
          exact hl
        · rw [Location.past_cons, hstep, hbefore]
        · simpa using hsuffix

/-- The line of a location in a text (`Location.past`) is one of the `lines`. In front of the
column of the location stands what precedes it in the text, and behind the column the line goes
on as the text does, up to the end of the line (`EndsLine`). -/
theorem exists_line_at (pre : List Char) {d : Char} (hlf : d ≠ '\n') (ds : List Char) :
    ∃ before after more,
      (lines (pre ++ d :: ds))[(Location.start.past pre).line - 1]? = some (before ++ after) ∧
      before.length + 1 = (Location.start.past pre).column ∧ before <:+ pre ∧
      d :: ds = after ++ more ∧ EndsLine more := by
  obtain ⟨before, after, more, hl, hbefore, hsuffix, hafter⟩ :=
    exists_line_from [] pre hlf ds .start rfl
  exact ⟨before, after, more, hl, hbefore, by simpa using hsuffix, hafter⟩

end SyntaxExplorer.Text
