import SyntaxExplorer.Node

/-!
# SyntaxExplorer.Proofs.Program.Shape

**What of a tree is its shape.** Two views of a tree leave something out:
`unlocated` forgets where its parts stand, and `joined` forgets where the first
branch of an `if` with an `else` ends and the second begins. The texts of a tree
are its names and the texts of its numbers, which is all that it holds of the
characters of a source.
-/

namespace SyntaxExplorer

namespace Expr

/-- The expression without its locations: each becomes `.nowhere`. -/
def unlocated : Expr → Expr
  | number text _ => number text .nowhere
  | id name _ => id name .nowhere
  | binary op left right _ => binary op left.unlocated right.unlocated .nowhere

/-- The names and the texts of numbers in an expression. -/
def texts : Expr → List String
  | number text _ => [text]
  | id name _ => [name]
  | binary _ left right _ => left.texts ++ right.texts

/-- The `texts` of an expression that may be absent. -/
def texts? : Option Expr → List String
  | some e => e.texts
  | none => []

end Expr

/-! ### Statements -/

mutual

/-- The statement without its locations. -/
def Statement.unlocated : Statement → Statement
  | .declaration name type initializer _ =>
    .declaration name type (initializer.map Expr.unlocated) .nowhere
  | .assignment target value _ => .assignment target value.unlocated .nowhere
  | .ifThen condition body _ =>
    .ifThen condition.unlocated (Statement.allUnlocated body) .nowhere
  | .ifElse condition body other _ _ =>
    .ifElse condition.unlocated (Statement.allUnlocated body) (Statement.allUnlocated other)
      .nowhere .nowhere
  | .whileLoop condition body _ =>
    .whileLoop condition.unlocated (Statement.allUnlocated body) .nowhere
  | .returnValue value _ => .returnValue (value.map Expr.unlocated) .nowhere

def Statement.allUnlocated : List Statement → List Statement
  | [] => []
  | s :: ss => s.unlocated :: Statement.allUnlocated ss

end

mutual

/-- The statement with the statements of the second branch of each `ifElse` moved into the
first. -/
def Statement.joined : Statement → Statement
  | .ifThen condition body here => .ifThen condition (Statement.allJoined body) here
  | .ifElse condition body other otherHere here =>
    .ifElse condition (Statement.allJoined body ++ Statement.allJoined other) [] otherHere here
  | .whileLoop condition body here => .whileLoop condition (Statement.allJoined body) here
  | s => s

def Statement.allJoined : List Statement → List Statement
  | [] => []
  | s :: ss => s.joined :: Statement.allJoined ss

end

mutual

/-- The names and the texts of numbers in a statement; those in its expressions are their
`Expr.texts`. -/
def Statement.texts : Statement → List String
  | .declaration name _ initializer _ => name :: Expr.texts? initializer
  | .assignment target value _ => target :: value.texts
  | .ifThen condition body _ => condition.texts ++ Statement.allTexts body
  | .ifElse condition body other _ _ =>
    condition.texts ++ (Statement.allTexts body ++ Statement.allTexts other)
  | .whileLoop condition body _ => condition.texts ++ Statement.allTexts body
  | .returnValue value _ => Expr.texts? value

def Statement.allTexts : List Statement → List String
  | [] => []
  | s :: ss => s.texts ++ Statement.allTexts ss

end

namespace Statement

theorem allUnlocated_eq_map (ss : List Statement) : allUnlocated ss = ss.map unlocated := by
  induction ss with
  | nil => rfl
  | cons s ss ih => rw [allUnlocated, ih, List.map_cons]

theorem allJoined_eq_map (ss : List Statement) : allJoined ss = ss.map joined := by
  induction ss with
  | nil => rfl
  | cons s ss ih => rw [allJoined, ih, List.map_cons]

theorem allTexts_eq_flatMap (ss : List Statement) : allTexts ss = ss.flatMap texts := by
  induction ss with
  | nil => rfl
  | cons s ss ih => rw [allTexts, ih, List.flatMap_cons]

end Statement

/-! ### Functions and programs -/

def Param.unlocated (p : Param) : Param := { p with location := .nowhere }

namespace Function

def unlocated (f : Function) : Function :=
  ⟨f.name, f.returnType, f.params.map Param.unlocated, f.body.map Statement.unlocated, .nowhere⟩

def joined (f : Function) : Function := { f with body := f.body.map Statement.joined }

def texts (f : Function) : List String :=
  f.name :: (f.params.map Param.name ++ f.body.flatMap Statement.texts)

end Function

namespace Program

/-- The program without its locations. -/
def unlocated (p : Program) : Program := ⟨p.functions.map Function.unlocated⟩

/-- The program with the two branches of every `if` with an `else` in one. -/
def joined (p : Program) : Program := ⟨p.functions.map Function.joined⟩

/-- The names and the texts of numbers in a program. -/
def texts (p : Program) : List String := p.functions.flatMap Function.texts

end Program

end SyntaxExplorer
