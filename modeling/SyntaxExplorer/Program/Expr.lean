import SyntaxExplorer.Location

/-!
# SyntaxExplorer.Program.Expr

**Expressions**: decimal literals, names and the four binary operators. A
literal keeps its text, which the reader of a program makes canonical; a binary
operation is located at its operator.

`Expr.prefixText` writes an operator in front of its operands, so
`a + b * 2` becomes `+(a, *(b, 2))`: the form needs no precedence and shows the
shape of the tree.
-/

namespace SyntaxExplorer

/-- The base types of the language. -/
inductive TypeName
  | int | char | void
  deriving Repr, DecidableEq

def TypeName.keyword : TypeName → String
  | int => "int"
  | char => "char"
  | void => "void"

/-- The binary operators. -/
inductive Operator
  | add | sub | mul | div
  deriving Repr, DecidableEq

def Operator.symbol : Operator → String
  | add => "+"
  | sub => "-"
  | mul => "*"
  | div => "/"

inductive Expr
  | number (text : String) (location : Location)
  | id (name : String) (location : Location)
  | binary (op : Operator) (left right : Expr) (location : Location)
  deriving Repr, DecidableEq, Inhabited

namespace Expr

/-- The literal of a value: its decimal text. -/
def ofValue (value : Int) (location : Location) : Expr :=
  number (toString value) location

def location : Expr → Location
  | number _ here => here
  | id _ here => here
  | binary _ _ _ here => here

/-- The leaf that stands where an operand was taken away. -/
def vacant : Expr := number "" .nowhere

/-- Take the operands away from a binary operation: the left one, the right one,
and the operation with vacant leaves in their place. -/
def takeOperands? : Expr → Option (Expr × Expr × Expr)
  | binary op left right here => some (left, right, binary op vacant vacant here)
  | _ => none

/-- The pieces of the prefix form, followed by `after`. -/
def prefixPieces : Expr → List String → List String
  | number text _, after => text :: after
  | id name _, after => name :: after
  | binary op left right _, after =>
    op.symbol :: "(" :: left.prefixPieces (", " :: right.prefixPieces (")" :: after))

/-- The prefix form, which shows the shape of an expression. -/
def prefixText (e : Expr) : String := String.join (e.prefixPieces [])

end Expr

end SyntaxExplorer
