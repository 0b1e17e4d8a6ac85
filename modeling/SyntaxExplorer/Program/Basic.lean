import SyntaxExplorer.Program.Expr

/-!
# SyntaxExplorer.Program.Basic

**The syntax tree**: a program is a list of function definitions, a function has
parameters and a body of statements. Trees read from a text have no empty
statement list and at least one function; trees made by hand may have both.

Each part is located at its first token, except that the two branches of an
`if` with an `else` are located together, at the `else`.
-/

namespace SyntaxExplorer

/-- A parameter of a function, located at its type. -/
structure Param where
  name : String
  type : TypeName
  location : Location
  deriving Repr, DecidableEq

inductive Statement
  /-- `type name;` or `type name = initializer;` -/
  | declaration (name : String) (type : TypeName) (initializer : Option Expr)
    (location : Location)
  /-- `target = value;` -/
  | assignment (target : String) (value : Expr) (location : Location)
  /-- `if (condition) { … }` -/
  | ifThen (condition : Expr) (thenBranch : List Statement) (location : Location)
  /-- `if (condition) { … } else { … }` -/
  | ifElse (condition : Expr) (thenBranch elseBranch : List Statement)
    (elseLocation location : Location)
  /-- `while (condition) { … }` -/
  | whileLoop (condition : Expr) (body : List Statement) (location : Location)
  /-- `return;` or `return value;` -/
  | returnValue (value : Option Expr) (location : Location)
  deriving Repr, Inhabited

namespace Statement

def location : Statement → Location
  | declaration _ _ _ here => here
  | assignment _ _ here => here
  | ifThen _ _ here => here
  | ifElse _ _ _ _ here => here
  | whileLoop _ _ here => here
  | returnValue _ here => here

/-! ### Statements can be compared -/

mutual

/-- Are the two statements the same, locations included? -/
def same : Statement → Statement → Bool
  | declaration name type value here, declaration name' type' value' here' =>
    name = name' && type = type' && value = value' && here = here'
  | assignment target value here, assignment target' value' here' =>
    target = target' && value = value' && here = here'
  | ifThen condition body here, ifThen condition' body' here' =>
    condition = condition' && here = here' && sameList body body'
  | ifElse condition body other otherHere here,
      ifElse condition' body' other' otherHere' here' =>
    condition = condition' && otherHere = otherHere' && here = here' &&
      sameList body body' && sameList other other'
  | whileLoop condition body here, whileLoop condition' body' here' =>
    condition = condition' && here = here' && sameList body body'
  | returnValue value here, returnValue value' here' => value = value' && here = here'
  | _, _ => false

/-- Are the two lists the same, statement by statement? -/
def sameList : List Statement → List Statement → Bool
  | [], [] => true
  | s :: ss, t :: ts => same s t && sameList ss ts
  | _, _ => false

end

mutual

theorem same_iff (s t : Statement) : same s t = true ↔ s = t := by
  match s with
  | declaration .. => cases t <;> simp [same, and_assoc]
  | assignment .. => cases t <;> simp [same, and_assoc]
  | ifThen _ body _ =>
    cases t <;> simp [same, sameList_iff body, and_assoc, and_comm]
  | ifElse _ body other _ _ =>
    cases t <;> simp [same, sameList_iff body, sameList_iff other]
    grind
  | whileLoop _ body _ =>
    cases t <;> simp [same, sameList_iff body, and_assoc, and_comm]
  | returnValue .. => cases t <;> simp [same]

theorem sameList_iff (ss ts : List Statement) : sameList ss ts = true ↔ ss = ts := by
  match ss with
  | [] => cases ts <;> simp [sameList]
  | s :: ss => cases ts <;> simp [sameList, same_iff s, sameList_iff ss]

end

instance : DecidableEq Statement := fun s t => decidable_of_iff _ (same_iff s t)

end Statement

/-- A function definition, located at its return type. -/
structure Function where
  name : String
  returnType : TypeName
  params : List Param
  body : List Statement
  location : Location
  deriving Repr, DecidableEq

structure Program where
  functions : List Function
  deriving Repr, DecidableEq

/-- The program without functions. No text is read as it. -/
def Program.empty : Program := ⟨[]⟩

end SyntaxExplorer
