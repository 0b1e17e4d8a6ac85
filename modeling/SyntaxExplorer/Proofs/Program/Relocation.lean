import SyntaxExplorer.Proofs.Node.Indented

/-!
# SyntaxExplorer.Proofs.Program.Relocation

**Trees at other locations.** `relocate` puts every part of a tree at the location that
a function gives for the old one, and leaves the rest as it is: without locations the
two trees are the same (`Program.unlocated_relocate`). So no outline and no census tells
them apart, and those of two lists of functions, one of them relocated, make up those
of the whole (`Program.outline_append_relocate`).
-/

namespace SyntaxExplorer

variable (f : Location → Location)

/-! ### Trees -/

def Expr.relocate : Expr → Expr
  | .number text here => .number text (f here)
  | .id name here => .id name (f here)
  | .binary op left right here => .binary op left.relocate right.relocate (f here)

mutual

def Statement.relocate : Statement → Statement
  | .declaration name type initializer here =>
    .declaration name type (initializer.map (Expr.relocate f)) (f here)
  | .assignment target value here => .assignment target (value.relocate f) (f here)
  | .ifThen condition body here =>
    .ifThen (condition.relocate f) (Statement.relocateAll body) (f here)
  | .ifElse condition body other otherHere here =>
    .ifElse (condition.relocate f) (Statement.relocateAll body) (Statement.relocateAll other)
      (f otherHere) (f here)
  | .whileLoop condition body here =>
    .whileLoop (condition.relocate f) (Statement.relocateAll body) (f here)
  | .returnValue value here => .returnValue (value.map (Expr.relocate f)) (f here)

def Statement.relocateAll : List Statement → List Statement
  | [] => []
  | s :: ss => s.relocate :: Statement.relocateAll ss

end

def Param.relocate (p : Param) : Param := { p with location := f p.location }

def Function.relocate (g : Function) : Function :=
  ⟨g.name, g.returnType, g.params.map (Param.relocate f), g.body.map (Statement.relocate f),
    f g.location⟩

/-- The program with its parts at other locations, where `f` takes them. -/
def Program.relocate (p : Program) : Program := ⟨p.functions.map (Function.relocate f)⟩

theorem Statement.relocateAll_eq_map (ss : List Statement) :
    relocateAll f ss = ss.map (relocate f) := by
  induction ss with
  | nil => rfl
  | cons s ss ih => rw [relocateAll, ih, List.map_cons]

/-! ### Only locations change -/

@[simp] theorem Expr.unlocated_relocate (e : Expr) : (e.relocate f).unlocated = e.unlocated := by
  induction e with
  | number => rfl
  | id => rfl
  | binary op left right here ihl ihr => rw [relocate, unlocated, ihl, ihr, unlocated]

mutual

@[simp] theorem Statement.unlocated_relocate :
    (s : Statement) → (s.relocate f).unlocated = s.unlocated
  | .declaration .. => by simp [relocate, unlocated, Function.comp_def]
  | .assignment .. => by simp [relocate, unlocated]
  | .ifThen _ body _ => by simp [relocate, unlocated, allUnlocated_relocateAll body]
  | .ifElse _ body other _ _ => by
      simp [relocate, unlocated, allUnlocated_relocateAll body, allUnlocated_relocateAll other]
  | .whileLoop _ body _ => by simp [relocate, unlocated, allUnlocated_relocateAll body]
  | .returnValue .. => by simp [relocate, unlocated, Function.comp_def]

theorem Statement.allUnlocated_relocateAll :
    (ss : List Statement) → allUnlocated (relocateAll f ss) = allUnlocated ss
  | [] => rfl
  | s :: ss => by
      rw [relocateAll, allUnlocated, unlocated_relocate s, allUnlocated_relocateAll ss,
        allUnlocated]

end

@[simp] theorem Param.unlocated_relocate (p : Param) :
    (p.relocate f).unlocated = p.unlocated :=
  rfl

@[simp] theorem Function.unlocated_relocate (g : Function) :
    (g.relocate f).unlocated = g.unlocated := by
  simp [relocate, unlocated, Function.comp_def]

namespace Program

/-- **Without its locations, a `relocate`d program is the old one.** -/
@[simp] theorem unlocated_relocate (p : Program) : (p.relocate f).unlocated = p.unlocated := by
  simp [relocate, unlocated, Function.comp_def]

/-! ### What is shown of two lists of functions -/

/-- The entries of a program stay when it is `relocate`d: an `Indented` has no location. -/
theorem ofChain_topLevel_relocate (p : Program) :
    Indented.ofChain (p.relocate f).topLevel = Indented.ofChain p.topLevel := by
  rw [topLevel, topLevel, Indented.ofChain_functions_eq_iff]
  simp [relocate, Function.comp_def]

/-- The `Indented.rows` that a program is shown in. -/
def rows (p : Program) : List Indented.Row := Indented.rows 0 (Indented.ofChain p.topLevel)

@[simp] theorem rows_relocate (p : Program) : (p.relocate f).rows = p.rows := by
  rw [rows, ofChain_topLevel_relocate, rows]

theorem rows_append (fs gs : List Function) :
    rows ⟨fs ++ gs⟩ = rows ⟨fs⟩ ++ rows ⟨gs⟩ := by
  simp only [rows, Indented.rows_ofChain, topLevel, List.map_append, Node.preOrder_append]

/-- The `rows` of two lists of functions stand one behind the other, wherever the second one
is. -/
theorem rows_append_relocate (p q : Program) :
    rows ⟨p.functions ++ (q.relocate f).functions⟩ = p.rows ++ q.rows := by
  rw [rows_append]
  exact congrArg (p.rows ++ ·) (rows_relocate f q)

theorem kindsOf_nodes (p : Program) : kindsOf p.nodes = p.rows.map Indented.Row.kind := by
  rw [rows, Indented.rows_topLevel, List.map_map]
  rfl

/-- The `outline` of two lists of functions is that of the first list and, behind it, that of
the second. -/
theorem outline_append_relocate (p q : Program) (indent : Nat) :
    outline ⟨p.functions ++ (q.relocate f).functions⟩ indent =
      p.outline indent ++ q.outline indent := by
  have hrows := rows_append_relocate f p q
  unfold rows at hrows
  rw [← String.toList_inj, String.toList_append, Indented.toList_outline_eq_rows,
    Indented.toList_outline_eq_rows, Indented.toList_outline_eq_rows, hrows, List.map_append,
    List.flatMap_append]

/-- `kindsOf` the nodes of two lists of functions are those of one and then those of the other. -/
theorem kindsOf_append_relocate (p q : Program) :
    kindsOf (nodes ⟨p.functions ++ (q.relocate f).functions⟩) =
      kindsOf p.nodes ++ kindsOf q.nodes := by
  rw [kindsOf_nodes, rows_append_relocate, List.map_append, kindsOf_nodes, kindsOf_nodes]

/-- The counts in a `Census.ofProgram` of two lists of functions add up. -/
theorem count_append_relocate (p q : Program) (kind : NodeKind) :
    (Census.ofProgram ⟨p.functions ++ (q.relocate f).functions⟩).count kind =
      (Census.ofProgram p).count kind + (Census.ofProgram q).count kind := by
  simp only [Census.count_ofProgram, kindsOf_append_relocate, List.count_append]

theorem total_append_relocate (p q : Program) :
    (Census.ofProgram ⟨p.functions ++ (q.relocate f).functions⟩).total =
      (Census.ofProgram p).total + (Census.ofProgram q).total := by
  have hlength : ∀ r : Program, r.nodes.length = (kindsOf r.nodes).length := by
    intro r
    rw [kindsOf, List.length_map]
  simp only [Census.total_ofProgram, hlength, kindsOf_append_relocate, List.length_append]

end Program

end SyntaxExplorer
