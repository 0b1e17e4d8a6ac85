import SyntaxExplorer.Proofs.Node.Walk

/-!
# SyntaxExplorer.Proofs.Node.Parts

**The nodes of a program are the parts of its tree.** `Program.parts` goes through the
typed tree by its constructors, without a look at slots, and lists every function, type,
parameter, statement, pair of branches and expression where it stands. The walk, which
sees nothing but slots, comes to the same list (`map_fst_nodes`): no slot leaves a part
out, and none names a part of another node.
-/

namespace SyntaxExplorer

/-! ### The parts of a tree -/

/-- An expression and all expressions in it. -/
def Expr.parts : Expr → List Node
  | number text here => [.expr (number text here)]
  | id name here => [.expr (id name here)]
  | binary op left right here =>
    .expr (binary op left right here) :: (left.parts ++ right.parts)

/-- The `Expr.parts` of an expression that may be absent. -/
def Expr.parts? : Option Expr → List Node
  | some e => e.parts
  | none => []

mutual

/-- A statement and everything in it. -/
def Statement.parts : Statement → List Node
  | .declaration name type initializer here =>
    .statement (.declaration name type initializer here) :: .type type here ::
      Expr.parts? initializer
  | .assignment target value here => .statement (.assignment target value here) :: value.parts
  | .ifThen condition body here =>
    .statement (.ifThen condition body here) :: (condition.parts ++ Statement.allParts body)
  | .ifElse condition body other otherHere here =>
    .statement (.ifElse condition body other otherHere here) ::
      (condition.parts ++ .ifBody body other otherHere ::
        (Statement.allParts body ++ Statement.allParts other))
  | .whileLoop condition body here =>
    .statement (.whileLoop condition body here) :: (condition.parts ++ Statement.allParts body)
  | .returnValue value here => .statement (.returnValue value here) :: Expr.parts? value

def Statement.allParts : List Statement → List Node
  | [] => []
  | s :: ss => s.parts ++ Statement.allParts ss

end

/-- A parameter and its type. -/
def Param.parts (p : Param) : List Node := [.param p, .type p.type p.location]

/-- A function and everything in it. -/
def Function.parts (f : Function) : List Node :=
  .function f :: .type f.returnType f.location ::
    (f.params.flatMap Param.parts ++ Statement.allParts f.body)

/-- Everything in a program, in the order of its text. -/
def Program.parts (p : Program) : List Node := p.functions.flatMap Function.parts

/-! ### The walk comes to the parts -/

namespace Node

/-- `preOrder` goes over a chain one node after the other. -/
theorem preOrder_cons_eq_append (depth : Nat) (n : Node) (ns : List Node) :
    preOrder depth (n :: ns) = preOrder depth [n] ++ preOrder depth ns :=
  preOrder_append depth [n] ns

theorem map_fst_preOrder_expr (depth : Nat) (e : Expr) :
    (preOrder depth [expr e]).map Prod.fst = e.parts := by
  induction e generalizing depth with
  | number | id => simp [primary, secondary, successor, Expr.parts]
  | binary op left right here ihl ihr =>
      have hleft := ihl (depth + 1)
      have hright := ihr (depth + 1)
      simp only [preOrder_cons depth, primary, secondary, successor, preOrder_nil, List.map_cons,
        List.map_append, hleft, hright, List.append_nil, Expr.parts]

theorem map_fst_preOrder_expr? (depth : Nat) (e : Option Expr) :
    (preOrder depth (ofExpr? e)).map Prod.fst = Expr.parts? e := by
  cases e with
  | none => simp [ofExpr?, Expr.parts?]
  | some e => exact map_fst_preOrder_expr depth e

theorem map_fst_preOrder_type (depth : Nat) (t : TypeName) (here : Location) :
    (preOrder depth [type t here]).map Prod.fst = [type t here] := by
  simp [primary, secondary, successor]

/-- In `preOrder` a node without a successor stands in front of what is in its other slots. -/
theorem map_fst_preOrder_singleton {n : Node} (h : n.successor = []) (depth : Nat) :
    (preOrder depth [n]).map Prod.fst =
      n :: ((preOrder (depth + 1) n.primary).map Prod.fst ++
        (preOrder (depth + 1) n.secondary).map Prod.fst) := by
  rw [preOrder_cons, h]
  simp

mutual

theorem map_fst_preOrder_statement (depth : Nat) (s : Statement) :
    (preOrder depth [statement s]).map Prod.fst = s.parts := by
  rw [map_fst_preOrder_singleton rfl]
  match s with
  | .declaration name t initializer here =>
      simp only [primary, secondary, map_fst_preOrder_type, map_fst_preOrder_expr?,
        Statement.parts, List.singleton_append]
  | .assignment target value here =>
      simp only [primary, secondary, preOrder_nil, List.map_nil, map_fst_preOrder_expr,
        Statement.parts, List.nil_append]
  | .ifThen condition body here =>
      simp only [primary, secondary, map_fst_preOrder_expr, map_fst_preOrder_statements _ body,
        Statement.parts]
  | .ifElse condition body other otherHere here =>
      have hbranches :=
        map_fst_preOrder_singleton (n := ifBody body other otherHere) rfl (depth + 1)
      simp only [primary, secondary] at hbranches
      simp only [primary, secondary, map_fst_preOrder_expr, hbranches,
        map_fst_preOrder_statements _ body, map_fst_preOrder_statements _ other, Statement.parts]
  | .whileLoop condition body here =>
      simp only [primary, secondary, map_fst_preOrder_expr, map_fst_preOrder_statements _ body,
        Statement.parts]
  | .returnValue value here =>
      simp only [primary, secondary, preOrder_nil, List.map_nil, map_fst_preOrder_expr?,
        Statement.parts, List.nil_append]

theorem map_fst_preOrder_statements (depth : Nat) (ss : List Statement) :
    (preOrder depth (ss.map statement)).map Prod.fst = Statement.allParts ss := by
  match ss with
  | [] => simp [Statement.allParts]
  | s :: ss =>
      rw [List.map_cons, preOrder_cons_eq_append, List.map_append,
        map_fst_preOrder_statement depth s, map_fst_preOrder_statements depth ss,
        Statement.allParts]

end

theorem map_fst_preOrder_params (depth : Nat) (ps : List Param) :
    (preOrder depth (ps.map param)).map Prod.fst = ps.flatMap Param.parts := by
  induction ps with
  | nil => simp
  | cons p ps ih =>
      rw [List.map_cons, preOrder_cons_eq_append, List.map_append, ih, List.flatMap_cons,
        map_fst_preOrder_singleton rfl]
      simp only [primary, secondary, map_fst_preOrder_type, preOrder_nil, List.map_nil,
        List.append_nil, Param.parts]

theorem map_fst_preOrder_function (depth : Nat) (f : Function) :
    (preOrder depth [function f]).map Prod.fst = f.parts := by
  simp only [preOrder_cons depth, primary, secondary, successor, preOrder_nil, List.map_cons,
    List.map_append, map_fst_preOrder_type, map_fst_preOrder_params, map_fst_preOrder_statements,
    List.append_nil, List.singleton_append, Function.parts]

end Node

open Node

/-- **`Program.nodes` are the parts of the tree**, in order. -/
theorem Program.map_fst_nodes (p : Program) : p.nodes.map Prod.fst = p.parts := by
  obtain ⟨functions⟩ := p
  rw [nodes_eq]
  show (preOrder 0 (functions.map function)).map Prod.fst = functions.flatMap Function.parts
  induction functions with
  | nil => simp
  | cons f functions ih =>
      rw [List.map_cons, preOrder_cons_eq_append, List.map_append, ih,
        map_fst_preOrder_function, List.flatMap_cons]

end SyntaxExplorer
