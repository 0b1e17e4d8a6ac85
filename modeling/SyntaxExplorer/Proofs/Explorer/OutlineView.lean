import SyntaxExplorer.Explorer
import SyntaxExplorer.Proofs.Node.Census
import SyntaxExplorer.Proofs.Output.Writing

/-!
# SyntaxExplorer.Proofs.Explorer.OutlineView

**Every way to show a program shows the same outline.** It is put together as a text,
written into a sink piece by piece, or kept as lines that the explorer draws as spans. All
of them follow the same walk, so each is made of the same lines in the order of the
recursive traversal (`outlines_agree`).

What the explorer adds to a line changes no text: the cursor stands in front of it, and the
selected line only gets another background.
-/

namespace SyntaxExplorer

namespace OutlineView

theorem text_map_on (line : Line) (background : Color) :
    Line.text (line.map (Span.on · background)) = line.text := by
  rw [Line.text, List.flatMap_map]
  rfl

/-- The spans of a `shownLine` behind its cursor have the same text, selected or not. -/
theorem text_tail_shownLine (line : OutlineLine) (isSelected : Bool) :
    Line.text (shownLine line isSelected).tail = (content line).text := by
  by_cases h : isSelected
  · rw [shownLine, List.tail_cons, if_pos h, text_map_on]
  · rw [shownLine, List.tail_cons, if_neg h]

/-- Behind the cursor, the `shownLines` have the texts of the lines of the outline. -/
theorem text_shownLines (lines : Array OutlineLine) (selected offset visible : Nat) :
    ((shownLines lines selected offset visible).map fun row => Line.text row.tail) =
      (lines.extract offset (offset + visible)).toList.map fun line => (content line).text := by
  rw [shownLines, List.map_map]
  generalize (lines.extract offset (offset + visible)).toList = shown
  calc
    _ = shown.zipIdx.map ((fun line => (content line).text) ∘ Prod.fst) := by
      refine List.map_congr_left fun x _ => ?_
      exact text_tail_shownLine x.1 _
    _ = _ := by rw [← List.map_map, List.zipIdx_map_fst]

/-- The `content` of a line has the text of `Outline.content`, where this is not cut. -/
theorem text_content_ofNode (n : Node) {depth : Nat} (h : 2 * depth ≤ Outline.maxIndentation) :
    (content (.ofNode n depth)).text = Outline.content Outline.defaultIndent n depth := by
  have hspaces : Outline.indentation Outline.defaultIndent depth = 2 * depth := by
    unfold Outline.indentation Outline.defaultIndent
    omega
  have hindent : ("".pushn ' ' (2 * depth)).toList = List.replicate (2 * depth) ' ' :=
    TextWriter.toList_spaces _
  cases hpayload : n.payload? <;>
    simp [content, Line.text, OutlineLine.ofNode, Outline.content, Outline.behindLabel,
      Span.ofString, hpayload, hspaces, hindent]

end OutlineView

namespace Program

theorem outlineLines_eq (p : Program) :
    p.outlineLines = (p.nodes.map fun x => OutlineLine.ofNode x.1 x.2).toArray := by
  have hfold : ∀ (xs : List (Node × Nat)) (lines : Array OutlineLine),
      xs.foldl (fun lines x => lines.push (.ofNode x.1 x.2)) lines =
        lines ++ (xs.map fun x => OutlineLine.ofNode x.1 x.2).toArray := by
    intro xs
    induction xs with
    | nil => simp
    | cons x xs ih => simp [ih]
  rw [outlineLines, visit_eq_foldl_nodes, hfold]
  simp

/-- The rows that the explorer shows are the lines of `Program.outline`, unless the tree is so
deep that these are cut. -/
theorem text_rows (p : Program) (h : 2 * (Census.ofProgram p).maxDepth < 2 ^ 64)
    (selected : Nat) :
    ((OutlineView.shownLines p.outlineLines selected 0 p.outlineLines.size).flatMap fun row =>
      Line.text row.tail ++ ['\n']) = (p.outline Outline.defaultIndent).toList := by
  have hdepth : ∀ x ∈ p.nodes, 2 * x.2 ≤ Outline.maxIndentation := by
    intro x hx
    have hle := Census.le_maxDepth hx
    show 2 * x.2 ≤ 2 ^ 64 - 1
    omega
  have hrows := OutlineView.text_shownLines p.outlineLines selected 0 p.outlineLines.size
  rw [Nat.zero_add, Array.extract_size] at hrows
  have hlines : (OutlineView.shownLines p.outlineLines selected 0 p.outlineLines.size).map
      (fun row => Line.text row.tail) =
        p.nodes.map fun x => Outline.content Outline.defaultIndent x.1 x.2 := by
    rw [hrows, outlineLines_eq, List.map_map]
    exact List.map_congr_left fun x hx => OutlineView.text_content_ofNode x.1 (hdepth x hx)
  rw [Outline.toList_outline, ← hlines, List.flatMap_map]

/-- `Program.outline` is the recursive traversal `Node.preOrder`, line by line. -/
theorem toList_outline_eq_preOrder (p : Program) (indent : Nat) :
    (p.outline indent).toList = (Node.preOrder 0 p.topLevel).flatMap fun x =>
      List.replicate (min (x.2 * indent) (2 ^ 64 - 1)) ' ' ++ x.1.kind.label.toList ++
        (x.1.payload?.elim [] fun payload => ": ".toList ++ payload.toList) ++ ['\n'] := by
  rw [Outline.toList_outline, nodes_eq, List.flatMap_map]
  refine congrArg (List.flatMap · _) (funext fun x => ?_)
  have hbehind : Outline.behindLabel x.1.payload? =
      x.1.payload?.elim [] fun payload => ": ".toList ++ payload.toList := by
    cases x.1.payload? <;> rfl
  rw [Outline.content, hbehind, ← List.append_assoc]
  rfl

/-- **All outlines of a program agree.** `Program.outline` is made of one line for each node,
in the order of `Node.preOrder`. A sink that `Accepts` everything, be it in parts, gets the
bytes of the text from `Program.writeTo` and is flushed once. A program is shown as the text
for two spaces a level, and so are the `shownLines` of the explorer, if the deepest line is not
cut; it would be deeper than a 64-bit memory has bytes for. -/
theorem outlines_agree (p : Program) :
    (∀ indent, (p.outline indent).toList = (Node.preOrder 0 p.topLevel).flatMap fun x =>
      List.replicate (min (x.2 * indent) (2 ^ 64 - 1)) ' ' ++ x.1.kind.label.toList ++
        (x.1.payload?.elim [] fun payload => ": ".toList ++ payload.toList) ++ ['\n']) ∧
    (∀ (indent : Nat) {ω ε : Type} [Sink ω ε] [Failure ε] (sink : ω), Sink.Accepts sink →
      ∃ writes answer, p.Writes indent sink (writes ++ [.flush answer]) answer ∧
        (∀ call ∈ writes, call.Succeeds) ∧
        SinkCall.accepted writes = (p.outline indent).toUTF8) ∧
    toString p = p.outline 2 ∧
    (2 * (Census.ofProgram p).maxDepth < 2 ^ 64 → ∀ source selected,
      let lines := (Explorer.ofProgram p source).lines
      ((OutlineView.shownLines lines selected 0 lines.size).flatMap fun row =>
        Line.text row.tail ++ ['\n']) = (p.outline 2).toList) := by
  refine ⟨p.toList_outline_eq_preOrder, ?_, rfl, fun hdepth _ selected =>
    p.text_rows hdepth selected⟩
  intro indent ω ε _ _ sink haccepts
  exact p.write_accepts indent haccepts

/-- Two lines are written with three spaces a level, and shown with two. -/
theorem outlines_agree_function :
    let p : Program := ⟨[⟨"f", .int, [], [], .start⟩]⟩
    let sink := LimitedSink.ofRoom none false
    let lines := (Explorer.ofProgram p "int f() {}").lines
    Sink.Accepts sink ∧
    (∃ writes answer, p.Writes 3 sink (writes ++ [.flush answer]) answer ∧
      SinkCall.accepted writes = "function: f\n   type: int\n".toUTF8) ∧
    2 * (Census.ofProgram p).maxDepth < 2 ^ 64 ∧
    ((OutlineView.shownLines lines 1 0 lines.size).flatMap fun row =>
      Line.text row.tail ++ ['\n']) = "function: f\n  type: int\n".toList := by
  intro p sink lines
  have haccepts : Sink.Accepts sink := LimitedSink.accepts rfl
  have hdepth : 2 * (Census.ofProgram p).maxDepth < 2 ^ 64 := by decide +kernel
  obtain ⟨-, hwrite, -, hrows⟩ := outlines_agree p
  obtain ⟨writes, answer, hwrites, -, haccepted⟩ := hwrite 3 sink haccepts
  have hthree : p.outline 3 = "function: f\n   type: int\n" := by decide +kernel
  have htwo : p.outline 2 = "function: f\n  type: int\n" := by decide +kernel
  refine ⟨haccepts, ⟨writes, answer, hwrites, ?_⟩, hdepth, ?_⟩
  · rw [haccepted, hthree]
  · rw [← htwo]
    exact hrows hdepth _ 1

end Program

end SyntaxExplorer
