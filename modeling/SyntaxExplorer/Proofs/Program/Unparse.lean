import Mathlib.Data.List.Induction
import SyntaxExplorer.Proofs.Grammar
import SyntaxExplorer.Proofs.Program.WellFormed

/-!
# SyntaxExplorer.Proofs.Program.Unparse

**Writing a program down.** `Program.phrase` lists the tokens of a tree, each with
the number of levels open in front of it. Parentheses stand where the tree would
be another one without them and nowhere else: around a sum that is an operand of
a product, around a product on the right of a product and around a sum on the
right of a sum. `Program.unparse` spells the tokens, with a space behind each.

A well-formed tree is the tree of its own phrase (`isProgram_phrase`).
-/

namespace SyntaxExplorer

open Grammar

/-! ### The tokens of a tree -/

/-- `isSum e`: is `e` a sum or a difference? -/
def Expr.isSum : Expr → Bool
  | binary op _ _ _ => op.isAdditive
  | _ => false

def Expr.isBinary : Expr → Bool
  | binary .. => true
  | _ => false

namespace Operator

/-- Is the left operand put in parentheses? Only below `*` and `/`, where it `isSum`. -/
def bracketsLeft (op : Operator) (left : Expr) : Bool := !op.isAdditive && left.isSum

/-- Is the right operand put in parentheses? -/
def bracketsRight (op : Operator) (right : Expr) : Bool :=
  if op.isAdditive then right.isSum else right.isBinary

end Operator

/-- A phrase, perhaps in parentheses, where `depth` levels are open. -/
def bracketed (brackets : Bool) (inner : Nat → Phrase) (depth : Nat) : Phrase :=
  if brackets then
    sym .openParen .nowhere depth :: inner (depth + 1) ++ [sym .closeParen .nowhere (depth + 1)]
  else inner depth

/-- The tokens of an expression that stands inside `depth` levels. -/
def Expr.phrase : Expr → Nat → Phrase
  | number text here, depth => [num (Nat.ofDigitChars 10 text.toList 0) here depth]
  | id name here, depth => [ident name here depth]
  | binary op left right here, depth =>
    bracketed (op.bracketsLeft left) left.phrase depth ++
      sym op.sign here depth :: bracketed (op.bracketsRight right) right.phrase depth

/-- The statements `inner` between braces, which are a level above `depth`. -/
def blockPhrase (inner : Nat → Phrase) (depth : Nat) : Phrase :=
  sym .openBrace .nowhere depth :: (inner (depth + 1) ++ [sym .closeBrace .nowhere (depth + 1)])

mutual

def Statement.phrase : Statement → Nat → Phrase
  | .declaration name type none here, depth =>
    [key type.word here depth, ident name .nowhere depth, sym .semicolon .nowhere depth]
  | .declaration name type (some e) here, depth =>
    key type.word here depth :: ident name .nowhere depth :: sym .assign .nowhere depth ::
      (e.phrase depth ++ [sym .semicolon .nowhere depth])
  | .assignment target e here, depth =>
    ident target here depth :: sym .assign .nowhere depth ::
      (e.phrase depth ++ [sym .semicolon .nowhere depth])
  | .ifThen e body here, depth =>
    key .ifWord here depth :: sym .openParen .nowhere depth ::
      (e.phrase depth ++ sym .closeParen .nowhere depth ::
        blockPhrase (Statement.phrases body) depth)
  | .ifElse e body other elseHere here, depth =>
    key .ifWord here depth :: sym .openParen .nowhere depth ::
      (e.phrase depth ++ sym .closeParen .nowhere depth ::
        (blockPhrase (Statement.phrases body) depth ++ key .elseWord elseHere depth ::
          blockPhrase (Statement.phrases other) depth))
  | .whileLoop e body here, depth =>
    key .whileWord here depth :: sym .openParen .nowhere depth ::
      (e.phrase depth ++ sym .closeParen .nowhere depth ::
        blockPhrase (Statement.phrases body) depth)
  | .returnValue none here, depth =>
    [key .returnWord here depth, sym .semicolon .nowhere depth]
  | .returnValue (some e) here, depth =>
    key .returnWord here depth :: (e.phrase depth ++ [sym .semicolon .nowhere depth])

def Statement.phrases : List Statement → Nat → Phrase
  | [], _ => []
  | s :: ss, depth => s.phrase depth ++ Statement.phrases ss depth

end

theorem Statement.phrases_eq_flatMap (ss : List Statement) (depth : Nat) :
    phrases ss depth = ss.flatMap fun s => s.phrase depth := by
  induction ss with
  | nil => rfl
  | cons s ss ih => rw [phrases, ih, List.flatMap_cons]

namespace Param

def phrase (p : Param) : Phrase := [key p.type.word p.location 0, ident p.name .nowhere 0]

/-- The `Param.phrase`s of a list of parameters, with a comma between every two. -/
def phrases : List Param → Phrase
  | [] => []
  | p :: ps => p.phrase ++ ps.flatMap fun q => sym .comma .nowhere 0 :: q.phrase

end Param

def Header.phrase (h : Header) : Phrase :=
  key h.signature.returnType.word h.signature.location 0 :: ident h.signature.name .nowhere 0 ::
    sym .openParen .nowhere 0 ::
      (Param.phrases h.params ++ [sym .closeParen .nowhere 0, sym .openBrace .nowhere 0])

/-- The part of a function in front of its body, as a `Header` of the grammar. -/
def Function.header (f : Function) : Header := ⟨⟨f.name, f.returnType, f.location⟩, f.params⟩

/-- The tokens of a function. The braces of its body are no level. -/
def Function.phrase (f : Function) : Phrase :=
  f.header.phrase ++ (Statement.phrases f.body 0 ++ [sym .closeBrace .nowhere 0])

/-- The `Function.phrase`s of a program, in order. -/
def Program.phrase (p : Program) : Phrase := p.functions.flatMap Function.phrase

/-! ### Spelling -/

/-- A character of a string literal: a quote and a backslash need a backslash in front. -/
def escaped (c : Char) : List Char := if c = '"' || c = '\\' then ['\\', c] else [c]

/-- How a lexeme is written: a string literal between quotes, with its characters `escaped`. -/
def Lexeme.spelling : Lexeme → String
  | number value => toString value
  | identifier name => name
  | stringLiteral contents => String.ofList ('"' :: (contents.toList.flatMap escaped ++ ['"']))
  | keyword k => k.spelling
  | symbol s => s.spelling
  | endOfFile => ""

/-- The text of a program: the `Lexeme.spelling`s of its `phrase` in order, with a space behind
each. -/
def Program.unparse (p : Program) : String :=
  String.join ((tokens p.phrase).map fun t => t.lexeme.spelling ++ " ")

/-! ### A well-formed tree is the tree of its phrase -/

namespace Expr

/-- `e.fits layer`: can `e` be derived from the layer by `IsExpr` without parentheses? -/
def fits : Layer → Expr → Bool
  | .expression, _ => true
  | .term, e => !e.isSum
  | .factor, e => !e.isBinary

variable {op : Operator}

/-- The operands of a sum are `bracketed` where they do not `fit`. -/
theorem phrase_sum (hop : op.isAdditive = true) (left right : Expr) (here : Location)
    (depth : Nat) :
    (binary op left right here).phrase depth =
      bracketed (!left.fits .expression) left.phrase depth ++
        sym op.sign here depth :: bracketed (!right.fits .term) right.phrase depth := by
  simp [phrase, Operator.bracketsLeft, Operator.bracketsRight, hop, fits]

/-- And so are those of a product. -/
theorem phrase_product (hop : op.isAdditive = false) (left right : Expr) (here : Location)
    (depth : Nat) :
    (binary op left right here).phrase depth =
      bracketed (!left.fits .term) left.phrase depth ++
        sym op.sign here depth :: bracketed (!right.fits .factor) right.phrase depth := by
  simp [phrase, Operator.bracketsLeft, Operator.bracketsRight, hop, fits]

end Expr

namespace Grammar

/-- A phrase that is an `IsExpr .factor` is an expression of every layer. -/
theorem IsExpr.ofFactorAt {depth : Nat} {s : Phrase} {e : Expr} (h : IsExpr .factor depth s e)
    (layer : Layer) : IsExpr layer depth s e := by
  cases layer with
  | expression => exact .ofTerm (.ofFactor h)
  | term => exact .ofFactor h
  | factor => exact h

/-- `bracketed` puts an expression that does not `fit` a layer in parentheses, and so derives
it from there. -/
theorem isExpr_bracketed {layer : Layer} {e : Expr} {inner : Nat → Phrase}
    (h : ∀ layer depth, e.fits layer = true → IsExpr layer depth (inner depth) e) (depth : Nat) :
    IsExpr layer depth (bracketed (!e.fits layer) inner depth) e := by
  cases hfits : e.fits layer with
  | true => exact h layer depth hfits
  | false => exact (IsExpr.parens .nowhere .nowhere (h .expression _ rfl)).ofFactorAt layer

theorem isExpr_number {text : String} (h : IsNumeral text) (here : Location) (depth : Nat) :
    IsExpr .factor depth [num (Nat.ofDigitChars 10 text.toList 0) here depth]
      (.number text here) := by
  obtain ⟨value, -, rfl⟩ := h
  have hvalue : Nat.ofDigitChars 10 (toString value).toList 0 = value := by simp
  rw [hvalue]
  exact .number

/-- A `WellFormed` expression is derived from every layer that it `fits`, as its `phrase`. -/
theorem isExpr_phrase {e : Expr} (h : e.WellFormed) (layer : Layer) (depth : Nat)
    (hfits : e.fits layer = true) : IsExpr layer depth (e.phrase depth) e := by
  induction e generalizing layer depth with
  | number text here => exact (isExpr_number h here depth).ofFactorAt layer
  | id name here => exact IsExpr.id.ofFactorAt layer
  | binary op left right here ihl ihr =>
      have hleft := fun layer depth => ihl h.1 layer depth
      have hright := fun layer depth => ihr h.2 layer depth
      cases hop : op.isAdditive with
      | true =>
          obtain rfl : layer = .expression := by
            cases layer <;> simp [Expr.fits, Expr.isSum, Expr.isBinary, hop] at hfits ⊢
          rw [Expr.phrase_sum hop]
          exact .sum hop (isExpr_bracketed hleft depth) (isExpr_bracketed hright depth)
      | false =>
          have hterm : IsExpr .term depth ((Expr.binary op left right here).phrase depth)
              (.binary op left right here) := by
            rw [Expr.phrase_product hop]
            exact .product hop (isExpr_bracketed hleft depth) (isExpr_bracketed hright depth)
          cases layer with
          | expression => exact .ofTerm hterm
          | term => exact hterm
          | factor => simp [Expr.fits, Expr.isBinary] at hfits

theorem isExpression_phrase {e : Expr} (h : e.WellFormed) (depth : Nat) :
    IsExpr .expression depth (e.phrase depth) e :=
  isExpr_phrase h .expression depth rfl

/-- `IsStatements` derives a list of statements by appending one after the other. -/
theorem isStatements_flatMap {depth : Nat} {f : Statement → Phrase} {ss : List Statement}
    (hne : ss ≠ []) (h : ∀ s ∈ ss, IsStatement depth (f s) s) :
    IsStatements depth (ss.flatMap f) ss := by
  induction ss using List.reverseRecOn with
  | nil => exact absurd rfl hne
  | append_singleton ss s ih =>
      rw [List.forall_mem_append, List.forall_mem_singleton] at h
      rw [List.flatMap_append, List.flatMap_singleton]
      cases ss with
      | nil => exact .one h.2
      | cons => exact .more (ih (by simp) h.1) h.2

theorem isBlock_blockPhrase {ss : List Statement} (hne : ss ≠ []) {depth : Nat}
    (h : ∀ s ∈ ss, IsStatement (depth + 1) (s.phrase (depth + 1)) s) :
    IsBlock depth (blockPhrase (Statement.phrases ss) depth) ss := by
  rw [blockPhrase, Statement.phrases_eq_flatMap]
  exact .braces .nowhere .nowhere (isStatements_flatMap hne h)

mutual

theorem isStatement_phrase (s : Statement) (h : s.WellFormed) (depth : Nat) :
    IsStatement depth (s.phrase depth) s := by
  match s with
  | .declaration name type none here => exact .declaration .nowhere .nowhere
  | .declaration name type (some e) here =>
      exact .initialized _ _ _ (isExpression_phrase (h.2 e rfl) depth)
  | .assignment target e here => exact .assignment _ _ (isExpression_phrase h.2 depth)
  | .ifThen e body here =>
      exact .ifThen _ _ (isExpression_phrase h.1 depth)
        (isBlock_blockPhrase h.2.1 (forall_isStatement_phrase body h.2.2 (depth + 1)))
  | .ifElse e body other elseHere here =>
      obtain ⟨he, hbody, hother⟩ := h
      exact .ifElse _ _ (isExpression_phrase he depth)
        (isBlock_blockPhrase hbody.1 (forall_isStatement_phrase body hbody.2 (depth + 1)))
        (isBlock_blockPhrase hother.1 (forall_isStatement_phrase other hother.2 (depth + 1)))
  | .whileLoop e body here =>
      exact .whileLoop _ _ (isExpression_phrase h.1 depth)
        (isBlock_blockPhrase h.2.1 (forall_isStatement_phrase body h.2.2 (depth + 1)))
  | .returnValue none here => exact .returnNone .nowhere
  | .returnValue (some e) here => exact .returnSome _ (isExpression_phrase (h e rfl) depth)

theorem forall_isStatement_phrase (ss : List Statement) (h : Statement.AllWellFormed ss)
    (depth : Nat) : ∀ s ∈ ss, IsStatement depth (s.phrase depth) s := by
  match ss with
  | [] => simp
  | s :: ss =>
      rw [List.forall_mem_cons]
      exact ⟨isStatement_phrase s h.1 depth, forall_isStatement_phrase ss h.2 depth⟩

end

theorem isParams_phrases (ps : List Param) : IsParams (Param.phrases ps) ps := by
  induction ps using List.reverseRecOn with
  | nil => exact .none
  | append_singleton ps p ih =>
      have hp : IsParam p.phrase p := .param .nowhere
      cases ps with
      | nil => simpa [Param.phrases] using IsParams.one hp
      | cons q ps =>
          have hmore := IsParams.more .nowhere ih (List.cons_ne_nil q ps) hp
          simpa [Param.phrases] using hmore

theorem isFunction_phrase {f : Function} (h : f.WellFormed) : IsFunction IsParams f.phrase f := by
  obtain ⟨-, -, hne, hbody⟩ := h
  have hheader : IsHeader IsParams f.header.phrase f.header :=
    .header _ _ _ _ (isParams_phrases f.params)
  rw [Function.phrase, Statement.phrases_eq_flatMap]
  exact .function .nowhere hheader
    (isStatements_flatMap hne fun s hs => isStatement_phrase s (hbody s hs) 0)

theorem isFunctions_flatMap {fs : List Function} (hne : fs ≠ []) (h : ∀ f ∈ fs, f.WellFormed) :
    IsFunctions IsParams (fs.flatMap Function.phrase) fs := by
  induction fs using List.reverseRecOn with
  | nil => exact absurd rfl hne
  | append_singleton fs f ih =>
      rw [List.forall_mem_append, List.forall_mem_singleton] at h
      rw [List.flatMap_append, List.flatMap_singleton]
      cases fs with
      | nil => exact .one (isFunction_phrase h.2)
      | cons => exact .more (ih (by simp) h.1) (isFunction_phrase h.2)

/-- **A `WellFormed` program is the tree of its `phrase`**, by `IsProgram`. -/
theorem isProgram_phrase {p : Program} (h : p.WellFormed) : IsProgram p.phrase p :=
  isFunctions_flatMap h.1 h.2

end Grammar

end SyntaxExplorer
