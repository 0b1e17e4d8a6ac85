import SyntaxExplorer.Proofs.Node.Walk
import SyntaxExplorer.Proofs.Output.TextWriter
import SyntaxExplorer.Proofs.Program.Shape
import SyntaxExplorer.Proofs.Text.Lines

/-!
# SyntaxExplorer.Proofs.Node.Outline

**What an outline is, and what can be read off it.** Whatever it is written into, an
outline is written in the same pieces, line by line (`Program.writeLines_eq`); as a text it
is one line for each node (`outline_eq_join`). Where no name and no text of a number holds
a line feed, an outline is cut at its line feeds into one line for each node
(`lines_outline`). A label holds neither a blank nor a colon, so a line gives
away how far it is indented and which node it shows: its kind
(`labelOf_closeLine_content`) and its payload (`content_inj`).
-/

namespace SyntaxExplorer

/-! ### Texts of nodes -/

namespace Node

/-- The names and the texts of numbers from a `Node` down. -/
def texts : Node → List String
  | function f => f.texts
  | type .. => []
  | param p => [p.name]
  | statement s => s.texts
  | ifBody thenBranch elseBranch _ =>
    thenBranch.flatMap Statement.texts ++ elseBranch.flatMap Statement.texts
  | expr e => e.texts

theorem texts_subset_of_mem_primary {n m : Node} (h : m ∈ n.primary) : m.texts ⊆ n.texts := by
  unfold primary at h
  split at h <;>
    grind [texts, Function.texts, Statement.texts, Statement.allTexts_eq_flatMap, Expr.texts]

theorem texts_subset_of_mem_secondary {n m : Node} (h : m ∈ n.secondary) :
    m.texts ⊆ n.texts := by
  unfold secondary at h
  split at h <;>
    grind [texts, Function.texts, Statement.texts, Statement.allTexts_eq_flatMap, Expr.texts,
      Expr.texts?, ofExpr?]

theorem texts_subset_of_mem_successor {n m : Node} (h : m ∈ n.successor) :
    m.texts ⊆ n.texts := by
  unfold successor at h
  split at h <;> grind [texts, Function.texts]

theorem texts_subset_of_mem_slots {n m : Node} (h : m ∈ n.slots) : m.texts ⊆ n.texts := by
  rcases List.mem_append.1 h with h | h
  · exact texts_subset_of_mem_primary h
  · rcases List.mem_append.1 h with h | h
    · exact texts_subset_of_mem_secondary h
    · exact texts_subset_of_mem_successor h

/-- A payload is one of the `texts` of the node, unless it is a type keyword or an operator,
and so it has no line feed if these have none. -/
theorem lineFeed_not_mem_payload {n : Node} (h : ∀ text ∈ n.texts, '\n' ∉ text.toList)
    {payload : String} (hp : n.payload? = some payload) : '\n' ∉ payload.toList := by
  have htext : ∀ text, text ∈ n.texts → some text = some payload → '\n' ∉ payload.toList := by
    rintro text hmem ⟨⟩
    exact h _ hmem
  cases n with
  | function f => exact htext f.name (by simp [texts, Function.texts]) hp
  | type t =>
      obtain rfl : t.keyword = payload := Option.some.inj hp
      cases t <;> decide
  | param p => exact htext p.name (by simp [texts]) hp
  | statement s =>
      cases s <;> simp only [payload?, reduceCtorEq] at hp
      · exact htext _ (by simp [texts, Statement.texts]) hp
      · exact htext _ (by simp [texts, Statement.texts]) hp
  | ifBody => simp [payload?] at hp
  | expr e =>
      cases e with
      | number text => exact htext text (by simp [texts, Expr.texts]) hp
      | id name => exact htext name (by simp [texts, Expr.texts]) hp
      | binary op =>
          obtain rfl : op.symbol = payload := Option.some.inj hp
          cases op <;> decide

end Node

/-- None of the `texts` of the program holds a line feed. -/
def Program.OneLined (p : Program) : Prop := ∀ text ∈ p.texts, '\n' ∉ text.toList

instance (p : Program) : Decidable p.OneLined :=
  inferInstanceAs (Decidable (∀ text ∈ p.texts, '\n' ∉ text.toList))

theorem Program.OneLined.payload {p : Program} (h : p.OneLined) :
    ∀ x ∈ p.nodes, ∀ payload, x.1.payload? = some payload → '\n' ∉ payload.toList := by
  have hnodes : ∀ x ∈ p.nodes, ∀ text ∈ x.1.texts, '\n' ∉ text.toList := by
    rw [nodes_eq]
    refine Node.forall_mem_preOrder (motive := fun n => ∀ text ∈ n.texts, '\n' ∉ text.toList)
      (fun n hn m hm text htext => hn text (Node.texts_subset_of_mem_slots hm htext)) 0 _ ?_
    intro n hn text htext
    obtain ⟨f, hf, rfl⟩ := List.mem_map.1 hn
    exact h text (List.mem_flatMap.2 ⟨f, hf, htext⟩)
  intro x hx payload
  exact Node.lineFeed_not_mem_payload (hnodes x hx)

namespace NodeKind

@[simp] theorem ofLabel?_label (kind : NodeKind) : ofLabel? kind.label = some kind := by
  cases kind <;> decide

theorem label_inj {kind kind' : NodeKind} (h : kind.label = kind'.label) : kind = kind' := by
  have hsome := congrArg ofLabel? h
  rw [ofLabel?_label, ofLabel?_label] at hsome
  exact Option.some.inj hsome

/-- A `NodeKind.label` is not empty. -/
theorem label_ne_nil (kind : NodeKind) : kind.label.toList ≠ [] := by
  cases kind <;> decide

theorem of_mem_label {kind : NodeKind} {c : Char} (h : c ∈ kind.label.toList) :
    c ≠ ' ' ∧ c ≠ ':' ∧ c ≠ '\n' ∧ c ≠ '\r' := by
  have hall : (kind.label.toList.all fun c =>
      c != ' ' && c != ':' && c != '\n' && c != '\r') = true := by
    cases kind <;> decide
  simpa [and_assoc] using List.all_eq_true.1 hall c h

end NodeKind

namespace Outline

/-! ### Lines -/

/-- The label of a node, and its payload if it has one: its `pieces` up to the line feed. -/
def caption (n : Node) : String :=
  match n.payload? with
  | some payload => n.kind.label ++ ": " ++ payload
  | none => n.kind.label

/-- The line of a node at this depth, which `writeLine` writes. -/
def line (indent : Nat) (n : Node) (depth : Nat) : String :=
  TextWriter.spaces (indentation indent depth) ++ caption n ++ "\n"

/-- The pieces in which `writeLine` writes the line of a node. -/
def linePieces (indent : Nat) (n : Node) (depth : Nat) : List String :=
  TextWriter.spacePieces chunkWidth (indentation indent depth) ++ pieces n

theorem join_linePieces (indent : Nat) (n : Node) (depth : Nat) :
    String.join (linePieces indent n depth) = line indent n depth := by
  rw [linePieces, String.join_append, TextWriter.join_spacePieces, line, String.append_assoc]
  unfold pieces caption
  cases n.payload? <;> simp [String.append_assoc]

theorem writeLine_eq {τ : Type} [TextWriter τ] (indent : Nat) (writer : τ) (n : Node)
    (depth : Nat) :
    writeLine indent writer n depth = TextWriter.writeTexts writer (linePieces indent n depth) := by
  rw [writeLine, linePieces, TextWriter.writeTexts_append, TextWriter.writeSpaces_eq]

/-- What stands in a line behind the `NodeKind.label`. -/
def behindLabel : Option String → List Char
  | some payload => ':' :: ' ' :: payload.toList
  | none => []

theorem toList_caption (n : Node) :
    (caption n).toList = n.kind.label.toList ++ behindLabel n.payload? := by
  unfold caption behindLabel
  split <;> simp [*]

/-- The characters of a `line`, up to its line feed. -/
def content (indent : Nat) (n : Node) (depth : Nat) : List Char :=
  List.replicate (indentation indent depth) ' ' ++
    (n.kind.label.toList ++ behindLabel n.payload?)

theorem toList_line (indent : Nat) (n : Node) (depth : Nat) :
    (line indent n depth).toList = content indent n depth ++ ['\n'] := by
  simp [line, content, TextWriter.toList_spaces, toList_caption]

end Outline

namespace Program

/-- The pieces in which `writeLines` writes the outline of a program. -/
def pieces (p : Program) (indent : Nat) : List String :=
  p.nodes.flatMap fun x => Outline.linePieces indent x.1 x.2

/-- An outline is written in the same `pieces` into every `TextWriter`. -/
theorem writeLines_eq {τ : Type} [TextWriter τ] (p : Program) (indent : Nat) (writer : τ) :
    p.writeLines indent writer = TextWriter.writeTexts writer (p.pieces indent) := by
  rw [writeLines, visit_eq_foldl_nodes, pieces]
  induction p.nodes generalizing writer with
  | nil => rfl
  | cons x xs ih =>
      rw [List.foldl_cons, ih, Outline.writeLine_eq, List.flatMap_cons,
        TextWriter.writeTexts_append]

theorem join_pieces (p : Program) (indent : Nat) :
    String.join (p.pieces indent) = p.outline indent := by
  rw [outline, writeLines_eq, TextWriter.writeTexts_string, String.empty_append]

end Program

namespace Outline

/-- `Program.outline` is made of the lines of the nodes. -/
theorem outline_eq_join (p : Program) (indent : Nat) :
    p.outline indent = String.join (p.nodes.map fun x => line indent x.1 x.2) := by
  rw [← Program.join_pieces, Program.pieces]
  induction p.nodes with
  | nil => rfl
  | cons x xs ih =>
      rw [List.flatMap_cons, String.join_append, ih, join_linePieces, List.map_cons,
        String.join_cons]

theorem toList_outline (p : Program) (indent : Nat) :
    (p.outline indent).toList =
      (p.nodes.map fun x => content indent x.1 x.2).flatMap fun l => l ++ ['\n'] := by
  rw [outline_eq_join, String.toList_join, List.flatMap_map, List.flatMap_map]
  simp only [toList_line]

theorem lineFeed_not_mem_content (indent : Nat) (n : Node) (depth : Nat)
    (h : ∀ payload, n.payload? = some payload → '\n' ∉ payload.toList) :
    '\n' ∉ content indent n depth := by
  simp only [content, List.mem_append, List.mem_replicate, not_or]
  refine ⟨by simp, fun hmem => (NodeKind.of_mem_label hmem).2.2.1 rfl, ?_⟩
  cases hp : n.payload? with
  | none => simp [behindLabel]
  | some payload => simpa [behindLabel] using h payload hp

/-- `Program.outline` has one line for each node, if the program is `OneLined`. -/
theorem lines_outline {p : Program} (h : p.OneLined) (indent : Nat) :
    Text.lines (p.outline indent).toList =
      p.nodes.map fun x => Text.closeLine (content indent x.1 x.2).reverse := by
  rw [toList_outline, Text.lines_flatMap_lineFeed, List.map_map]
  · rfl
  · intro l hl
    obtain ⟨x, hx, rfl⟩ := List.mem_map.1 hl
    exact lineFeed_not_mem_content indent x.1 x.2 (h.payload x hx)

/-! ### Reading a line -/

/-- The label that a `line` carries: what is behind the indentation, up to a colon. -/
def labelOf (line : List Char) : List Char :=
  (line.dropWhile fun c => c == ' ').takeWhile fun c => c != ':'

/-- A text that may follow a label in `content`: nothing, or something behind a colon. -/
def FollowsLabel (tail : List Char) : Prop := tail = [] ∨ ∃ rest, tail = ':' :: rest

theorem followsLabel_behindLabel (payload : Option String) :
    FollowsLabel (behindLabel payload) := by
  cases payload with
  | none => exact .inl rfl
  | some payload => exact .inr ⟨_, rfl⟩

theorem dropWhile_blank (k : Nat) (kind : NodeKind) (tail : List Char) :
    (List.replicate k ' ' ++ (kind.label.toList ++ tail)).dropWhile (fun c => c == ' ') =
      kind.label.toList ++ tail := by
  rw [List.dropWhile_append_of_pos (by simp)]
  obtain ⟨c, cs, hlabel⟩ := List.exists_cons_of_ne_nil kind.label_ne_nil
  have hc : c ≠ ' ' := (NodeKind.of_mem_label (hlabel ▸ List.mem_cons_self)).1
  rw [hlabel, List.cons_append, List.dropWhile_cons_of_neg (by simpa using hc)]

theorem takeWhile_label (kind : NodeKind) {tail : List Char} (h : FollowsLabel tail) :
    (kind.label.toList ++ tail).takeWhile (fun c => c != ':') = kind.label.toList := by
  rw [List.takeWhile_append_of_pos]
  · rcases h with rfl | ⟨rest, rfl⟩ <;> simp
  · intro c hc
    simpa using (NodeKind.of_mem_label hc).2.1

theorem labelOf_append (k : Nat) (kind : NodeKind) {tail : List Char} (h : FollowsLabel tail) :
    labelOf (List.replicate k ' ' ++ (kind.label.toList ++ tail)) = kind.label.toList := by
  rw [labelOf, dropWhile_blank, takeWhile_label kind h]

/-- A line carries the label of its node (`labelOf`), also if a carriage return at its end does
not count (`Text.closeLine`). -/
theorem labelOf_closeLine_content (indent : Nat) (n : Node) (depth : Nat) :
    labelOf (Text.closeLine (content indent n depth).reverse) = n.kind.label.toList := by
  unfold content
  generalize indentation indent depth = k
  cases n.payload? with
  | none =>
      rw [behindLabel, List.append_nil, Text.closeLine_append _ _ n.kind.label_ne_nil,
        Text.closeLine_of_getLast]
      · simpa using labelOf_append k n.kind (.inl rfl)
      · intro hlast
        exact (NodeKind.of_mem_label (List.mem_of_getLast? hlast)).2.2.2 rfl
  | some payload =>
      have hclosed : Text.closeLine (List.replicate k ' ' ++
          (n.kind.label.toList ++ behindLabel (some payload))).reverse =
          List.replicate k ' ' ++ (n.kind.label.toList ++
            ':' :: Text.closeLine (' ' :: payload.toList).reverse) := by
        have hsplit := Text.closeLine_append
          (List.replicate k ' ' ++ (n.kind.label.toList ++ [':'])) (' ' :: payload.toList) (by simp)
        simpa only [behindLabel, List.append_assoc, List.singleton_append] using hsplit
      rw [hclosed, labelOf_append k n.kind (.inr ⟨_, rfl⟩)]

theorem behindLabel_inj {payload payload' : Option String}
    (h : behindLabel payload = behindLabel payload') : payload = payload' := by
  cases payload <;> cases payload' <;> simp_all [behindLabel, String.toList_inj]

/-- The `content` of a line determines its indentation, and the kind and the payload of its
node. -/
theorem content_inj {indent indent' depth depth' : Nat} {n m : Node}
    (h : content indent n depth = content indent' m depth') :
    indentation indent depth = indentation indent' depth' ∧ n.kind = m.kind ∧
      n.payload? = m.payload? := by
  have hcaption := congrArg (List.dropWhile fun c => c == ' ') h
  simp only [content, dropWhile_blank] at hcaption
  have hlabel := congrArg (List.takeWhile fun c => c != ':') hcaption
  simp only [takeWhile_label _ (followsLabel_behindLabel _)] at hlabel
  rw [hlabel] at hcaption
  refine ⟨?_, NodeKind.label_inj (String.toList_inj.1 hlabel),
    behindLabel_inj (List.append_cancel_left hcaption)⟩
  have hlength := congrArg List.length h
  simp only [content, hlabel, List.append_cancel_left hcaption, List.length_append,
    List.length_replicate] at hlength
  omega

end Outline

end SyntaxExplorer
