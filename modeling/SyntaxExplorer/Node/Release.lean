import SyntaxExplorer.Node

/-!
# SyntaxExplorer.Node.Release

**Taking a tree apart, children before their parents.** A release owns the tree:
it detaches the parts below a node (`Part.takeApart`), deals with them and with
the rest of the node's chain, and then lets the node go, telling an observer its
kind. The nodes of a chain `a, b, c` are thus released last to first, behind
what is below `a`, `b` and `c` in this order.

The statements of a function follow it in the chain of functions, so the second
function is released before the statements of the first one.

Pending work is kept on a stack, as in the walk that shows a program, and every
node is counted when it goes.
-/

namespace SyntaxExplorer

namespace Release

/-- A part of a tree that waits to be taken apart, with what it owns. -/
inductive Part
  /-- A function without its statements, which follow it in its chain. -/
  | function (f : Function)
  | type (t : TypeName)
  | param (p : Param)
  | statement (s : Statement)
  | ifBody (thenBranch elseBranch : List Statement)
  | expr (e : Expr)

/-- What is still to be done. -/
inductive Work
  | part (part : Part)
  /-- Take the parts of a chain apart, from this one on. -/
  | chain (siblings : List Part)
  /-- Release a node whose parts are detached. -/
  | free (kind : NodeKind)

/-- A node whose parts are detached, and the work that the parts are. -/
structure Detached where
  kind : NodeKind
  primary : Option Work
  secondary : Option Work

/-- A chain of siblings, or nothing if there are none. -/
def chain {α : Type} (items : List α) (wrap : α → Part) : Option Work :=
  if items.isEmpty then none else some (.chain (items.map wrap))

/-- The work that an expression is. -/
def exprWork (e : Expr) : Work := .part (.expr e)

/-- Detach what a statement owns. -/
def takeApartStatement : Statement → Detached
  | .declaration _ type initializer _ =>
    ⟨.declaration, some (.part (.type type)), initializer.map exprWork⟩
  | .assignment _ value _ => ⟨.assignment, none, some (exprWork value)⟩
  | .ifThen condition thenBranch _ =>
    ⟨.ifThen, some (exprWork condition), chain thenBranch .statement⟩
  | .ifElse condition thenBranch elseBranch _ _ =>
    ⟨.ifElse, some (exprWork condition), some (.part (.ifBody thenBranch elseBranch))⟩
  | .whileLoop condition body _ =>
    ⟨.whileLoop, some (exprWork condition), chain body .statement⟩
  | .returnValue value _ => ⟨.returnValue, none, value.map exprWork⟩

/-- Detach what a part owns. -/
def Part.takeApart : Part → Detached
  | function f => ⟨.function, some (.part (.type f.returnType)), chain f.params .param⟩
  | type _ => ⟨.type, none, none⟩
  | param p => ⟨.param, some (.part (.type p.type)), none⟩
  | statement s => takeApartStatement s
  | ifBody thenBranch elseBranch =>
    ⟨.ifBody, chain thenBranch .statement, chain elseBranch .statement⟩
  | expr e =>
    match e.takeOperands? with
    | some (left, right, _) => ⟨e.kind, some (exprWork left), some (exprWork right)⟩
    | none => ⟨e.kind, none, none⟩

/-- What a node and the rest of its chain lead to: its parts, the rest of the
chain, and the node itself. -/
def Detached.work (d : Detached) (rest : Option (List Part)) : List Work :=
  d.primary.toList ++ d.secondary.toList ++ (rest.map .chain).toList ++ [.free d.kind]

/-- The chain of the functions of a program, each followed by its statements. -/
def topLevel (p : Program) : List Part :=
  p.functions.flatMap fun f => .function { f with body := [] } :: f.body.map .statement

/-! ### The work ends -/

def Part.weight : Part → Nat
  | function f => 8 + 8 * f.params.length
  | type _ => 4
  | param _ => 8
  | statement s => s.weight
  | ifBody thenBranch elseBranch =>
    4 + Statement.weights thenBranch + Statement.weights elseBranch
  | expr e => e.weight

/-- The weight of a chain of parts. -/
def Part.weights : List Part → Nat
  | [] => 0
  | p :: ps => p.weight + weights ps

def Work.cost : Work → Nat
  | part p => p.weight + 1
  | chain siblings => Part.weights siblings + 1
  | free _ => 1

/-- What a stack of work still costs. -/
def cost : List Work → Nat
  | [] => 0
  | work :: stack => work.cost + cost stack

@[simp] theorem cost_nil : cost [] = 0 := rfl

@[simp] theorem cost_cons (work : Work) (stack : List Work) :
    cost (work :: stack) = work.cost + cost stack := rfl

@[simp] theorem cost_append (stack stack' : List Work) :
    cost (stack ++ stack') = cost stack + cost stack' := by
  induction stack with
  | nil => simp
  | cons work stack ih => simp [ih, Nat.add_assoc]

theorem weights_map_statement (ss : List Statement) :
    Part.weights (ss.map .statement) = Statement.weights ss := by
  induction ss with
  | nil => rfl
  | cons s ss ih => simp only [List.map_cons, Part.weights, Part.weight, Statement.weights, ih]

theorem weights_map_param (ps : List Param) :
    Part.weights (ps.map .param) = 8 * ps.length := by
  induction ps with
  | nil => rfl
  | cons p ps ih =>
    simp only [List.map_cons, Part.weights, Part.weight, List.length_cons, ih]
    omega

/-- A chain costs one more than its parts weigh. -/
theorem cost_chain_le {α : Type} (items : List α) (wrap : α → Part) :
    cost (chain items wrap).toList ≤ Part.weights (items.map wrap) + 1 := by
  unfold chain
  split <;> simp [Work.cost]

theorem cost_expr? (e : Option Expr) :
    cost (e.map exprWork).toList ≤ Expr.weight? e + 1 := by
  cases e <;> simp [exprWork, Work.cost, Part.weight, Expr.weight?]

/-- What is detached of a statement costs less than the statement. -/
theorem cost_takeApartStatement (s : Statement) :
    cost (takeApartStatement s).primary.toList + cost (takeApartStatement s).secondary.toList + 2 ≤
      s.weight := by
  cases s with
  | declaration _ type initializer =>
    have := cost_expr? initializer
    simp only [takeApartStatement, Statement.weight, Option.toList_some, cost_cons, cost_nil,
      Work.cost, Part.weight]
    omega
  | assignment =>
    simp only [takeApartStatement, Statement.weight, exprWork, Option.toList_none,
      Option.toList_some, cost_cons, cost_nil, Work.cost, Part.weight]
    omega
  | ifThen _ body | whileLoop _ body =>
    have := cost_chain_le body .statement
    rw [weights_map_statement] at this
    simp only [takeApartStatement, Statement.weight, exprWork, Option.toList_some, cost_cons,
      cost_nil, Work.cost, Part.weight]
    omega
  | ifElse =>
    simp only [takeApartStatement, Statement.weight, exprWork, Option.toList_some, cost_cons,
      cost_nil, Work.cost, Part.weight]
    omega
  | returnValue value =>
    have := cost_expr? value
    simp only [takeApartStatement, Statement.weight, Option.toList_none, cost_nil]
    omega

/-- What is detached of a part costs less than the part. -/
theorem cost_takeApart (p : Part) :
    cost p.takeApart.primary.toList + cost p.takeApart.secondary.toList + 2 ≤ p.weight := by
  cases p with
  | function f =>
    have := cost_chain_le f.params .param
    rw [weights_map_param] at this
    simp only [Part.takeApart, Part.weight, Option.toList_some, cost_cons, cost_nil, Work.cost]
    omega
  | type | param => simp [Part.takeApart, Part.weight, Work.cost]
  | statement s => exact cost_takeApartStatement s
  | ifBody thenBranch elseBranch =>
    have hthen := cost_chain_le thenBranch .statement
    have helse := cost_chain_le elseBranch .statement
    rw [weights_map_statement] at hthen helse
    simp only [Part.takeApart, Part.weight]
    omega
  | expr e =>
    cases e with
    | number | id => simp [Part.takeApart, Expr.takeOperands?, Part.weight, Expr.weight]
    | binary =>
      simp only [Part.takeApart, Expr.takeOperands?, exprWork, Part.weight, Expr.weight,
        Option.toList_some, cost_cons, cost_nil, Work.cost]
      omega

/-- Taking a part apart makes the stack cheaper. -/
theorem cost_work_lt (p : Part) (stack : List Work) :
    cost (p.takeApart.work none ++ stack) < cost (.part p :: stack) := by
  have := cost_takeApart p
  simp only [Detached.work, cost_append, Option.map_none, Option.toList_none, cost_nil, cost_cons,
    Work.cost]
  omega

theorem cost_work_rest_lt (p : Part) (rest : List Part) (stack : List Work) :
    cost (p.takeApart.work (some rest) ++ stack) < cost (.chain (p :: rest) :: stack) := by
  have := cost_takeApart p
  simp only [Detached.work, cost_append, Option.map_some, Option.toList_some, cost_nil, cost_cons,
    Work.cost, Part.weights]
  omega

/-! ### The loop -/

/-- Do all work. The observer is told the kind of every node that goes, and
`released` nodes are gone already. -/
def run {β : Type} (observe : β → NodeKind → β) : List Work → β → Nat → β × Nat
  | [], seen, released => (seen, released)
  | .free kind :: stack, seen, released => run observe stack (observe seen kind) (released + 1)
  | .part p :: stack, seen, released =>
    run observe (p.takeApart.work none ++ stack) seen released
  | .chain [] :: stack, seen, released => run observe stack seen released
  | .chain (p :: rest) :: stack, seen, released =>
    run observe (p.takeApart.work (some rest) ++ stack) seen released
termination_by stack => cost stack
decreasing_by
  · simp [Work.cost]
  · exact cost_work_lt p stack
  · simp [Work.cost]
  · exact cost_work_rest_lt p rest stack

end Release

/-- What a release did: the number of nodes that are gone. -/
structure ReleaseReport where
  released : Nat
  deriving Repr, DecidableEq

/-- Release a tree and tell an observer the kind of each node as it goes. Where
there is no tree, there is nothing to release. -/
def releaseWith {β : Type} (tree : Option Program) (observe : β → NodeKind → β) (seen : β) :
    β × ReleaseReport :=
  match tree with
  | none => (seen, ⟨0⟩)
  | some p =>
    let (seen, released) := Release.run observe (Release.chain (Release.topLevel p) id).toList seen 0
    (seen, ⟨released⟩)

/-- Release a tree that nobody observes. -/
def release (tree : Option Program) : ReleaseReport := (releaseWith tree (fun _ _ => ()) ()).2

/-- The kinds that an observer is told when a tree is released, in order. -/
def releaseTree (tree : Option Program) : List NodeKind :=
  (releaseWith tree (fun seen kind => kind :: seen) []).1.reverse

/-- The kinds of the nodes of a program in the order of their release. -/
def Program.release (p : Program) : List NodeKind := releaseTree (some p)

end SyntaxExplorer
