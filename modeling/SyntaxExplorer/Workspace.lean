import SyntaxExplorer.Node.Release
import SyntaxExplorer.Parser

/-!
# SyntaxExplorer.Workspace

**A tree under work.** A workspace holds the current tree, if there is one, a
saved tree to go back to, and the diagnostics of every analysis made in it. The
diagnostics only grow: nothing in this module takes one away.
-/

namespace SyntaxExplorer

structure Workspace where
  current : Option Program
  saved : Option Program
  diagnostics : List String

namespace Workspace

/-- No tree, nothing saved, no diagnostics. -/
def empty : Workspace := ⟨none, none, []⟩

/-- The current functions; none where there is no tree. -/
def functions (w : Workspace) : List Function := (w.current.getD .empty).functions

/-- Replace the functions of the current tree. Where there is no tree, it
becomes one. -/
def withFunctions (w : Workspace) (functions : List Function) : Workspace :=
  { w with current := some ⟨functions⟩ }

/-- Start over with a program without functions. -/
def clear (w : Workspace) : Workspace := { w with current := some .empty }

/-- Save the current tree, or that there is none. -/
def save (w : Workspace) : Workspace := { w with saved := w.current }

/-- Exchange the current tree and the saved one. -/
def swap (w : Workspace) : Workspace := { w with current := w.saved, saved := w.current }

/-- Analyse a source in place of the current tree. -/
def analyse {σ : Type} [TokenSource σ] (w : Workspace) (s : σ) : Workspace :=
  let (result, diagnostics) := parseReporting s w.diagnostics
  { w with current := result, diagnostics }

/-- Analyse a source and add its functions to the current tree; the answer is
how many there were. A failure leaves the tree as it is. -/
def append {σ : Type} [TokenSource σ] (w : Workspace) (s : σ) : Nat × Workspace :=
  match parseReporting s w.diagnostics with
  | (some added, diagnostics) =>
    (added.functions.length,
      { w.withFunctions (w.functions ++ added.functions) with diagnostics })
  | (none, diagnostics) => (0, { w with diagnostics })

/-- Add one function at the end. -/
def push (w : Workspace) (f : Function) : Workspace := w.withFunctions (w.functions ++ [f])

/-- Remove a function; the answer is the one removed. -/
def remove (w : Workspace) (index : Nat) : Option Function × Workspace :=
  match w.functions[index]? with
  | some f => (some f, w.withFunctions (w.functions.eraseIdx index))
  | none => (none, w)

/-- Turn the order of the functions around. -/
def reverse (w : Workspace) : Workspace :=
  { w with current := w.current.map fun p => ⟨p.functions.reverse⟩ }

/-- The statement of the body of a function. -/
def statement? (w : Workspace) (function statement : Nat) : Option Statement :=
  (w.functions[function]?).bind fun f => f.body[statement]?

/-- Replace a statement of the body of a function. -/
def setStatement (w : Workspace) (function statement : Nat) (s : Statement) : Workspace :=
  { w with current := w.current.map fun p =>
      ⟨p.functions.modify function fun f => { f with body := f.body.set statement s }⟩ }

/-- Take the operands away from the expression that a statement holds. The
answer is the operands, where there are any, and what is left of the
expression, where there is one. -/
def takeOperands (w : Workspace) (function statement : Nat) :
    Option (Expr × Expr) × Option Expr × Workspace :=
  match w.statement? function statement with
  | none => (none, none, w)
  | some s =>
    match s.expr? with
    | none => (none, none, w)
    | some e =>
      match e.takeOperands? with
      | none => (none, some e, w)
      | some (left, right, rest) =>
        (some (left, right), some rest, w.setStatement function statement (s.withExpr rest))

/-- Are the current and the saved tree the same, locations included? -/
def isSaved (w : Workspace) : Bool := w.saved = w.current

/-- Release the current tree; the answer is the kinds of its nodes in order. -/
def release (w : Workspace) : List NodeKind × Workspace :=
  (releaseTree w.current, { w with current := none })

end Workspace

end SyntaxExplorer
