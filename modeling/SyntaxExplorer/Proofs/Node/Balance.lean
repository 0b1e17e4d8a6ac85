import SyntaxExplorer.Proofs.Node.Census
import SyntaxExplorer.Proofs.Node.Parts

/-!
# SyntaxExplorer.Proofs.Node.Balance

**The counts of a census balance** (`census_balances`). Every node stands in the top
chain or in one slot of one node. So what all nodes are worth together is what the top
chain is worth and what the slots of all nodes hold (`tally_eq`), and a law about the
slots of one node becomes a law about the counts: it is summed up over all nodes.

The law is `sum_slots`. A function, a parameter and a declaration own a type, a
conditional with two branches owns the pair of them, an operation owns two expressions
and a statement one, which a declaration and a `return` may do without. Functions are
owned by nothing and make up the top chain.
-/

namespace SyntaxExplorer

namespace Node

/-- Is the node a declaration with an initializer? -/
def isInitialized : Node → Bool
  | statement (.declaration _ _ (some _) _) => true
  | _ => false

/-- Is the node a `return` with a value? -/
def isValued : Node → Bool
  | statement (.returnValue (some _) _) => true
  | _ => false

/-- One for a node of the kind, and nothing for any other. -/
def ofKind (k : NodeKind) (n : Node) : Nat := if n.kind = k then 1 else 0

/-- A price for functions, for types, for pairs of branches and for expressions. All
other nodes are free. -/
def worth (function type branches expr : Nat) : Node → Nat
  | .function _ => function
  | .type .. => type
  | .ifBody .. => branches
  | .expr _ => expr
  | _ => 0

section Worth

variable (a b c d : Nat)

attribute [local simp] primary secondary successor ofExpr? worth ofKind kind Statement.kind
  Expr.kind isInitialized isValued

theorem worth_eq (n : Node) :
    n.worth a b c d = a * n.ofKind .function + b * n.ofKind .type + c * n.ofKind .ifBody +
      d * (n.ofKind .number + n.ofKind .id + n.ofKind .binaryOp) := by
  cases n with
  | statement s => cases s <;> simp
  | expr e => cases e <;> simp
  | _ => simp

theorem sum_worth_functions (functions : List Function) :
    ((functions.map function).map (worth a b c d)).sum = a * functions.length := by
  simp [Function.comp_def, Nat.mul_comm]

/-- Parameters and statements stand in lists, which have no `worth`. -/
theorem sum_worth_eq_zero {ns : List Node} (h : ∀ n ∈ ns, n.worth a b c d = 0) :
    (ns.map (worth a b c d)).sum = 0 := by
  refine List.sum_eq_zero fun x hx => ?_
  obtain ⟨n, hn, rfl⟩ := List.mem_map.1 hx
  exact h n hn

theorem sum_worth_params (ps : List Param) : ((ps.map param).map (worth a b c d)).sum = 0 :=
  sum_worth_eq_zero a b c d (by simp)

theorem sum_worth_statements (ss : List Statement) :
    ((ss.map statement).map (worth a b c d)).sum = 0 :=
  sum_worth_eq_zero a b c d (by simp)

/-- What the `Node.slots` hold is worth as much as the kind of the node says. -/
theorem sum_slots (n : Node) :
    (n.slots.map (worth a b c d)).sum =
      b * (n.ofKind .function + n.ofKind .param + n.ofKind .declaration) +
      c * n.ofKind .ifElse +
      d * (2 * n.ofKind .binaryOp + n.ofKind .assignment + n.ofKind .ifThen + n.ofKind .ifElse +
        n.ofKind .whileLoop + n.isInitialized.toNat + n.isValued.toNat) := by
  simp only [slots, List.map_append, List.sum_append]
  cases n with
  | function f => simp [-List.map_map, sum_worth_params, sum_worth_statements]
  | type | param => simp
  | ifBody => simp [-List.map_map, sum_worth_statements]
  | statement s =>
      cases s with
      | declaration name t initializer here => cases initializer <;> simp
      | returnValue value here => cases value <;> simp
      | assignment => simp
      | ifThen | whileLoop => simp [-List.map_map, sum_worth_statements]
      | ifElse => simp [Nat.add_comm]
  | expr e =>
      cases e with
      | number | id => simp
      | binary => simp [Nat.mul_two]

end Worth

/-- The nodes of `preOrder` stand in its chain or in a slot of one of them. -/
theorem sum_preOrder (f : Node → Nat) (depth : Nat) (ns : List Node) :
    (((preOrder depth ns).map Prod.fst).map f).sum =
      (ns.map f).sum +
        (((preOrder depth ns).map Prod.fst).map fun n => (n.slots.map f).sum).sum := by
  fun_induction preOrder depth ns with
  | case1 => rfl
  | case2 depth n ns ihp ihs ihu ihr =>
      simp only [slots, List.map_cons, List.map_append, List.sum_cons, List.sum_append] at *
      omega

end Node

open Node

namespace Program

/-- What all `Program.parts` are worth together. -/
def tally (p : Program) (f : Node → Nat) : Nat := (p.parts.map f).sum

variable (p : Program)

theorem tally_eq (f : Node → Nat) :
    p.tally f = (p.topLevel.map f).sum + p.tally fun n => (n.slots.map f).sum := by
  rw [tally, tally, ← map_fst_nodes, nodes_eq]
  exact sum_preOrder f 0 p.topLevel

theorem tally_add (f g : Node → Nat) : p.tally (fun n => f n + g n) = p.tally f + p.tally g :=
  List.sum_map_add

theorem tally_mul (k : Nat) (f : Node → Nat) : p.tally (fun n => k * f n) = k * p.tally f :=
  List.sum_map_mul_left p.parts f k

theorem tally_toNat (q : Node → Bool) : p.tally (fun n => (q n).toNat) = p.parts.countP q := by
  unfold tally
  induction p.parts with
  | nil => rfl
  | cons n ns ih => cases hq : q n <;> simp [hq, ih, Nat.add_comm]

/-- A kind is worth as much as the `Census` counts of it. -/
theorem tally_ofKind (k : NodeKind) : p.tally (ofKind k) = (Census.ofProgram p).count k := by
  have hkind : ofKind k = fun n => (decide (n.kind = k)).toNat := by
    funext n
    by_cases h : n.kind = k <;> simp [ofKind, h]
  rw [hkind, tally_toNat, Census.count_ofProgram, kindsOf, ← map_fst_nodes, List.count,
    List.countP_map, List.countP_map]
  rfl

/-- What there is of a kind balances with what owns it, at any prices. -/
theorem tally_worth (a b c d : Nat) :
    let count := (Census.ofProgram p).count
    a * count .function + b * count .type + c * count .ifBody +
        d * (count .number + count .id + count .binaryOp) =
      a * p.functions.length + (b * (count .function + count .param + count .declaration) +
        c * count .ifElse + d * (2 * count .binaryOp + count .assignment + count .ifThen +
          count .ifElse + count .whileLoop + p.parts.countP isInitialized +
          p.parts.countP isValued)) := by
  have htop : (p.topLevel.map (worth a b c d)).sum = a * p.functions.length :=
    sum_worth_functions a b c d p.functions
  have htally := p.tally_eq (worth a b c d)
  rw [htop, funext (sum_slots a b c d), funext (worth_eq a b c d)] at htally
  simpa only [tally_add, tally_mul, tally_ofKind, tally_toNat] using htally

end Program

/-- **The counts of a `Census` balance.** As many types are counted as functions, parameters
and declarations, as many pairs of branches as conditionals that have two, and as many
functions as the program lists. The numbers and names together are as many as the operations,
the statements that always hold an expression, the declarations with an initializer
(`isInitialized`) and the values that are returned (`isValued`), wherever in the tree these
stand (`Program.parts`). -/
theorem census_balances (p : Program) :
    (Census.ofProgram p).count .type =
      (Census.ofProgram p).count .function + (Census.ofProgram p).count .param +
        (Census.ofProgram p).count .declaration ∧
    (Census.ofProgram p).count .ifBody = (Census.ofProgram p).count .ifElse ∧
    (Census.ofProgram p).count .function = p.functions.length ∧
    (Census.ofProgram p).count .number + (Census.ofProgram p).count .id =
      (Census.ofProgram p).count .binaryOp + (Census.ofProgram p).count .assignment +
        (Census.ofProgram p).count .ifThen + (Census.ofProgram p).count .ifElse +
        (Census.ofProgram p).count .whileLoop + p.parts.countP isInitialized +
        p.parts.countP isValued := by
  -- Each law is the one where nothing else has a price.
  have hfunctions := p.tally_worth 1 0 0 0
  have htypes := p.tally_worth 0 1 0 0
  have hbranches := p.tally_worth 0 0 1 0
  have hexprs := p.tally_worth 0 0 0 1
  simp only [Nat.zero_mul, Nat.one_mul, Nat.add_zero, Nat.zero_add]
    at hfunctions htypes hbranches hexprs
  exact ⟨htypes, hbranches, hfunctions, by omega⟩

end SyntaxExplorer
