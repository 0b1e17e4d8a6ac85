import SyntaxExplorer.Program.Basic

/-!
# SyntaxExplorer.Node

**One view of every part of a program.** A node has a kind, perhaps a payload, a
location, and three slots of further nodes, each in source order:

    kind          primary          secondary        successor
    function      return type      parameters       body
    param         type
    declaration   type             initializer
    assignment                     value
    if            condition        then statements
    if-else       condition        if-body
    if-body       then statements  else statements
    while         condition        body
    return                         value
    binary-op     left             right

The types of functions, parameters and declarations are nodes of their own, at
the location of the node that owns them, and so are the two branches of an `if`
with an `else`, together.

`Node.weight` counts a node and everything below it four times, which leaves
room for the chains that a walk opens at a node (`Node.weight_eq`).
-/

namespace SyntaxExplorer

/-- The kinds of nodes, in the order in which they are listed. -/
inductive NodeKind
  | function | type | param | declaration | assignment
  | ifThen | ifElse | ifBody | whileLoop | returnValue
  | binaryOp | number | id
  deriving Repr, DecidableEq

namespace NodeKind

/-- Every kind, in order. -/
def all : List NodeKind :=
  [function, type, param, declaration, assignment,
    ifThen, ifElse, ifBody, whileLoop, returnValue,
    binaryOp, number, id]

def label : NodeKind → String
  | function => "function"
  | type => "type"
  | param => "param"
  | declaration => "declaration"
  | assignment => "assignment"
  | ifThen => "if"
  | ifElse => "if-else"
  | ifBody => "if-body"
  | whileLoop => "while"
  | returnValue => "return"
  | binaryOp => "binary-op"
  | number => "number"
  | id => "id"

/-- The kind with this label. -/
def ofLabel? (label : String) : Option NodeKind :=
  all.find? fun kind => kind.label == label

theorem mem_all (kind : NodeKind) : kind ∈ all := by
  cases kind <;> decide

end NodeKind

inductive Node
  | function (f : Function)
  /-- A type keyword, at the location of its owner. -/
  | type (t : TypeName) (owner : Location)
  | param (p : Param)
  | statement (s : Statement)
  /-- The two branches of an `if` with an `else`. -/
  | ifBody (thenBranch elseBranch : List Statement) (location : Location)
  | expr (e : Expr)
  deriving Repr, DecidableEq

def Statement.kind : Statement → NodeKind
  | declaration .. => .declaration
  | assignment .. => .assignment
  | ifThen .. => .ifThen
  | ifElse .. => .ifElse
  | whileLoop .. => .whileLoop
  | returnValue .. => .returnValue

/-- The expression that a statement holds itself: an initializer, a value or a condition. -/
def Statement.expr? : Statement → Option Expr
  | declaration _ _ initializer _ => initializer
  | assignment _ value _ => some value
  | ifThen condition _ _ => some condition
  | ifElse condition _ _ _ _ => some condition
  | whileLoop condition _ _ => some condition
  | returnValue value _ => value

/-- The statement with another expression in the place of the one it holds. -/
def Statement.withExpr (e : Expr) : Statement → Statement
  | declaration name type (some _) here => declaration name type (some e) here
  | declaration name type none here => declaration name type none here
  | assignment target _ here => assignment target e here
  | ifThen _ body here => ifThen e body here
  | ifElse _ body other otherHere here => ifElse e body other otherHere here
  | whileLoop _ body here => whileLoop e body here
  | returnValue (some _) here => returnValue (some e) here
  | returnValue none here => returnValue none here

def Expr.kind : Expr → NodeKind
  | number .. => .number
  | id .. => .id
  | binary .. => .binaryOp

namespace Node

def kind : Node → NodeKind
  | function _ => .function
  | type .. => .type
  | param _ => .param
  | statement s => s.kind
  | ifBody .. => .ifBody
  | expr e => e.kind

/-- The name, type keyword, operator or literal text of a node. -/
def payload? : Node → Option String
  | function f => some f.name
  | type t _ => some t.keyword
  | param p => some p.name
  | statement (.declaration name _ _ _) => some name
  | statement (.assignment target _ _) => some target
  | statement _ => none
  | ifBody .. => none
  | expr (.number text _) => some text
  | expr (.id name _) => some name
  | expr (.binary op _ _ _) => some op.symbol

def location : Node → Location
  | function f => f.location
  | type _ owner => owner
  | param p => p.location
  | statement s => s.location
  | ifBody _ _ here => here
  | expr e => e.location

/-- The node of an expression that may be absent. -/
def ofExpr? (e : Option Expr) : List Node := e.toList.map expr

/-- The first slot, one level below the node. -/
def primary : Node → List Node
  | function f => [type f.returnType f.location]
  | type .. => []
  | param p => [type p.type p.location]
  | statement (.declaration _ t _ here) => [type t here]
  | statement (.assignment ..) => []
  | statement (.ifThen condition _ _) => [expr condition]
  | statement (.ifElse condition _ _ _ _) => [expr condition]
  | statement (.whileLoop condition _ _) => [expr condition]
  | statement (.returnValue ..) => []
  | ifBody thenBranch _ _ => thenBranch.map statement
  | expr (.binary _ left _ _) => [expr left]
  | expr _ => []

/-- The second slot, one level below the node. -/
def secondary : Node → List Node
  | function f => f.params.map param
  | type .. => []
  | param _ => []
  | statement (.declaration _ _ initializer _) => ofExpr? initializer
  | statement (.assignment _ value _) => [expr value]
  | statement (.ifThen _ thenBranch _) => thenBranch.map statement
  | statement (.ifElse _ thenBranch elseBranch elseHere _) =>
    [ifBody thenBranch elseBranch elseHere]
  | statement (.whileLoop _ body _) => body.map statement
  | statement (.returnValue value _) => ofExpr? value
  | ifBody _ elseBranch _ => elseBranch.map statement
  | expr (.binary _ _ right _) => [expr right]
  | expr _ => []

/-- The third slot, at the level of the node. -/
def successor : Node → List Node
  | function f => f.body.map statement
  | _ => []

end Node

/-! ### Weights -/

def Expr.weight : Expr → Nat
  | number .. => 4
  | id .. => 4
  | binary _ left right _ => 4 + left.weight + right.weight

/-- The weight of an expression that may be absent. -/
def Expr.weight? : Option Expr → Nat
  | some e => e.weight
  | none => 0

mutual

def Statement.weight : Statement → Nat
  | .declaration _ _ initializer _ => 8 + Expr.weight? initializer
  | .assignment _ value _ => 4 + value.weight
  | .ifThen condition thenBranch _ => 4 + condition.weight + Statement.weights thenBranch
  | .ifElse condition thenBranch elseBranch _ _ =>
    8 + condition.weight + Statement.weights thenBranch + Statement.weights elseBranch
  | .whileLoop condition body _ => 4 + condition.weight + Statement.weights body
  | .returnValue value _ => 4 + Expr.weight? value

/-- The weight of a list of statements. -/
def Statement.weights : List Statement → Nat
  | [] => 0
  | s :: ss => s.weight + Statement.weights ss

end

namespace Node

/-- Four times the number of nodes from this one down. -/
def weight : Node → Nat
  | function f => 8 + 8 * f.params.length + Statement.weights f.body
  | type .. => 4
  | param _ => 8
  | statement s => s.weight
  | ifBody thenBranch elseBranch _ =>
    4 + Statement.weights thenBranch + Statement.weights elseBranch
  | expr e => e.weight

/-- The weight of a chain of nodes. -/
def weights : List Node → Nat
  | [] => 0
  | n :: ns => n.weight + weights ns

@[simp] theorem weights_nil : weights [] = 0 := rfl

@[simp] theorem weights_cons (n : Node) (ns : List Node) :
    weights (n :: ns) = n.weight + weights ns := rfl

theorem weights_append (ns ms : List Node) : weights (ns ++ ms) = weights ns + weights ms := by
  induction ns with
  | nil => simp
  | cons n ns ih => simp [ih, Nat.add_assoc]

theorem weights_map_statement (ss : List Statement) :
    weights (ss.map statement) = Statement.weights ss := by
  induction ss with
  | nil => rfl
  | cons s ss ih => simp [Statement.weights, weight, ih]

theorem weights_map_param (ps : List Param) : weights (ps.map param) = 8 * ps.length := by
  induction ps with
  | nil => rfl
  | cons p ps ih =>
    simp only [List.map_cons, weights_cons, weight, ih, List.length_cons]
    omega

theorem weights_ofExpr? (e : Option Expr) : weights (ofExpr? e) = Expr.weight? e := by
  cases e <;> simp [ofExpr?, Expr.weight?, weight]

/-- A node weighs four more than its slots. -/
theorem weight_eq (n : Node) :
    n.weight = 4 + weights n.primary + weights n.secondary + weights n.successor := by
  cases n with
  | function f =>
    simp only [weight, primary, secondary, successor, weights_cons, weights_nil,
      weights_map_param, weights_map_statement]
  | type | param => simp [weight, primary, secondary, successor]
  | statement s =>
    cases s with
    | declaration | assignment | returnValue =>
      simp [weight, primary, secondary, successor, Statement.weight, weights_ofExpr?]
    | ifThen | whileLoop =>
      simp [weight, primary, secondary, successor, Statement.weight, weights_map_statement]
    | ifElse =>
      simp [weight, primary, secondary, successor, Statement.weight]
      omega
  | ifBody =>
    simp [weight, primary, secondary, successor, weights_map_statement]
  | expr e =>
    cases e <;> simp [weight, primary, secondary, successor, Expr.weight]

end Node

end SyntaxExplorer
