import SyntaxExplorer.Node.Release

/-!
# SyntaxExplorer.Proofs.Node.Release

**The order of a release is the post-order of the linked tree.** In the linked
tree (`Linked`) a node has three links, to the first node of its primary slot, to
the first node of its secondary slot and to the next node of its chain, and the
functions of a program and their statements are one chain. The order of a
release is what a recursion along the links says: first, second, next, self
(`releaseWith_eq_postOrder`).

The loop keeps its work on a stack. What ties it to the recursion is the order
that the work on the stack still leads to (`Release.order`): no turn of the loop
changes it, except that the observer is told its first kind (`run_eq_order`).
The release detaches the parts of a node by a view of its own, and that view is
compared with the slots of the node once for every kind of part.
-/

namespace SyntaxExplorer

/-! ### The linked tree -/

/-- A tree whose nodes are linked: to the first node of each of their two slots,
and to the next node of the chain they stand in. -/
inductive Linked
  | absent
  | node (kind : NodeKind) (primary secondary next : Linked)
  deriving Repr, DecidableEq

namespace Linked

/-- The chain of the nodes, linked by their slots `primary` and `secondary` and by their order. -/
def ofChain : List Node → Linked
  | [] => absent
  | n :: rest => node n.kind (ofChain n.primary) (ofChain n.secondary) (ofChain rest)
termination_by nodes => Node.weights nodes
decreasing_by
  all_goals
    have := n.weight_eq
    simp only [Node.weights_cons]
    omega

/-- What the first link leads to, then the second, then the rest of the chain,
then the node itself. -/
def postOrder : Linked → List NodeKind
  | absent => []
  | node kind primary secondary next =>
    primary.postOrder ++ secondary.postOrder ++ next.postOrder ++ [kind]

@[simp] theorem ofChain_nil : ofChain [] = absent := by
  rw [ofChain]

@[simp] theorem ofChain_cons (n : Node) (rest : List Node) :
    ofChain (n :: rest) =
      node n.kind (ofChain n.primary) (ofChain n.secondary) (ofChain rest) := by
  rw [ofChain]

/-- The rest of a chain matters to `ofChain` only as a link. -/
theorem ofChain_append_congr (ns : List Node) {rest rest' : List Node}
    (h : ofChain rest = ofChain rest') : ofChain (ns ++ rest) = ofChain (ns ++ rest') := by
  induction ns with
  | nil => exact h
  | cons n ns ih => simp only [List.cons_append, ofChain_cons, ih]

end Linked

/-- The chain of the functions of a program, each followed by its statements. -/
def Program.linkedTopLevel (p : Program) : List Node :=
  p.functions.flatMap fun f => .function f :: f.body.map .statement

/-- The linked tree of a program, from `linkedTopLevel` on. -/
def Program.linked (p : Program) : Linked := .ofChain p.linkedTopLevel

namespace Release

open Linked

/-! ### Parts and nodes -/

/-- The node that a `Part` is. A part that is made up on the way has no location. -/
def Part.node : Part → Node
  | function f => .function f
  | type t => .type t .nowhere
  | param p => .param p
  | statement s => .statement s
  | ifBody thenBranch elseBranch => .ifBody thenBranch elseBranch .nowhere
  | expr e => .expr e

/-- The order that a piece of `Work` leads to. -/
def Work.order : Work → List NodeKind
  | part p => (ofChain [p.node]).postOrder
  | chain siblings => (ofChain (siblings.map Part.node)).postOrder
  | free kind => [kind]

/-- The order that a stack of work leads to. -/
def order (stack : List Work) : List NodeKind := stack.flatMap Work.order

@[simp] theorem order_nil : order [] = [] := rfl

@[simp] theorem order_cons (work : Work) (stack : List Work) :
    order (work :: stack) = work.order ++ order stack := rfl

@[simp] theorem order_append (stack stack' : List Work) :
    order (stack ++ stack') = order stack ++ order stack' :=
  List.flatMap_append

theorem order_chain {α : Type} (items : List α) (wrap : α → Part) :
    order (chain items wrap).toList =
      (ofChain (items.map fun item => (wrap item).node)).postOrder := by
  unfold chain
  cases items with
  | nil => simp [postOrder]
  | cons item items => simp [Work.order, Function.comp_def]

theorem order_expr? (e : Option Expr) :
    order (e.map exprWork).toList = (ofChain (Node.ofExpr? e)).postOrder := by
  cases e with
  | none => simp [Node.ofExpr?, postOrder]
  | some e => simp [exprWork, Work.order, Part.node, Node.ofExpr?]

/-- The location of a type makes no difference, nor that of an if-body. -/
theorem order_type (t : TypeName) (here : Location) :
    order [.part (.type t)] = (ofChain [.type t here]).postOrder := by
  simp [Work.order, Part.node, Node.kind, Node.primary, Node.secondary]

theorem order_ifBody (thenBranch elseBranch : List Statement) (here : Location) :
    order [.part (.ifBody thenBranch elseBranch)] =
      (ofChain [.ifBody thenBranch elseBranch here]).postOrder := by
  simp [Work.order, Part.node, Node.kind, Node.primary, Node.secondary]

theorem order_expr (e : Expr) : order [exprWork e] = (ofChain [.expr e]).postOrder := by
  simp only [order_cons, order_nil, List.append_nil, exprWork, Work.order, Part.node]

/-- What is `Detached` of a part leads to the same as the slots of its node. -/
def Detached.Shows (d : Detached) (n : Node) : Prop :=
  d.kind = n.kind ∧ order d.primary.toList = (ofChain n.primary).postOrder ∧
    order d.secondary.toList = (ofChain n.secondary).postOrder

theorem order_none : order (none : Option Work).toList = (ofChain []).postOrder := by
  simp [postOrder]

theorem takeApartStatement_shows (s : Statement) : (takeApartStatement s).Shows (.statement s) := by
  cases s with
  | declaration name t initializer here =>
      exact ⟨rfl, order_type t here, order_expr? initializer⟩
  | assignment target value here => exact ⟨rfl, order_none, order_expr value⟩
  | ifThen condition body here =>
      exact ⟨rfl, order_expr condition, order_chain body .statement⟩
  | ifElse condition body other elseHere here =>
      exact ⟨rfl, order_expr condition, order_ifBody body other elseHere⟩
  | whileLoop condition body here =>
      exact ⟨rfl, order_expr condition, order_chain body .statement⟩
  | returnValue value here => exact ⟨rfl, order_none, order_expr? value⟩

/-- `takeApart` takes a part apart along the slots of its node. -/
theorem takeApart_shows (p : Part) : p.takeApart.Shows p.node := by
  cases p with
  | function f => exact ⟨rfl, order_type f.returnType f.location, order_chain f.params .param⟩
  | type => exact ⟨rfl, order_none, order_none⟩
  | param p => exact ⟨rfl, order_type p.type p.location, order_none⟩
  | statement s => exact takeApartStatement_shows s
  | ifBody thenBranch elseBranch =>
      exact ⟨rfl, order_chain thenBranch .statement, order_chain elseBranch .statement⟩
  | expr e =>
      cases e with
      | number => exact ⟨rfl, order_none, order_none⟩
      | id => exact ⟨rfl, order_none, order_none⟩
      | binary op left right here => exact ⟨rfl, order_expr left, order_expr right⟩

/-- The `order` of what `takeApart` leaves of a node, with the rest of its chain behind it. -/
theorem order_work (p : Part) (rest : Option (List Part)) :
    order (p.takeApart.work rest) =
      (ofChain ((p :: rest.getD []).map Part.node)).postOrder := by
  obtain ⟨hkind, hprimary, hsecondary⟩ := takeApart_shows p
  have hrest : order (rest.map Work.chain).toList =
      (ofChain ((rest.getD []).map Part.node)).postOrder := by
    cases rest with
    | none => exact order_none
    | some rest => simp [Work.order]
  simp only [Detached.work, order_append, hprimary, hsecondary, hrest, order_cons, Work.order,
    hkind, order_nil, List.append_nil, List.map_cons, ofChain_cons, postOrder]

/-! ### The loop -/

/-- `Release.run` tells the observer the `order` of the stack, and counts every kind. -/
theorem run_eq_order {β : Type} (observe : β → NodeKind → β) (stack : List Work) (seen : β)
    (released : Nat) :
    run observe stack seen released =
      ((order stack).foldl observe seen, released + (order stack).length) := by
  -- A kind leaves the order when the observer is told it; no other turn changes the order.
  fun_induction run observe stack seen released with
  | case1 seen released => rfl
  | case2 seen released kind stack ih =>
      rw [ih, order_cons]
      simp only [Work.order, List.singleton_append, List.foldl_cons, List.length_cons]
      rw [Nat.add_assoc, Nat.add_comm 1]
  | case3 seen released p stack ih =>
      rw [ih, order_append, order_work]
      rfl
  | case4 seen released stack ih =>
      rw [ih, order_cons]
      simp [Work.order, postOrder]
  | case5 seen released p rest stack ih =>
      rw [ih, order_append, order_work]
      rfl

/-- The chain that is released (`Release.topLevel`) is that of `Program.linked`, although the
functions in it have lost their statements. -/
theorem ofChain_topLevel (p : Program) :
    ofChain ((topLevel p).map Part.node) = p.linked := by
  obtain ⟨functions⟩ := p
  unfold Program.linked Program.linkedTopLevel topLevel
  induction functions with
  | nil => rfl
  | cons f functions ih =>
      simp only [List.flatMap_cons, List.map_append, List.map_cons, List.cons_append,
        List.map_map, ofChain_cons]
      have hbody : (f.body.map (Part.node ∘ Part.statement)) = f.body.map .statement := rfl
      rw [hbody, ofChain_append_congr _ ih]
      rfl

end Release

/-- **The order of `releaseWith` is `Linked.postOrder`** of the linked tree, for every program
and every observer, and the report counts its kinds. -/
theorem releaseWith_eq_postOrder {β : Type} (p : Program) (observe : β → NodeKind → β)
    (seen : β) :
    releaseWith (some p) observe seen =
      (p.linked.postOrder.foldl observe seen, ⟨p.linked.postOrder.length⟩) := by
  simp only [releaseWith, Release.run_eq_order, Release.order_chain]
  have hchain : Linked.ofChain ((Release.topLevel p).map fun part => (id part).node) = p.linked :=
    Release.ofChain_topLevel p
  rw [hchain, Nat.zero_add]

end SyntaxExplorer
