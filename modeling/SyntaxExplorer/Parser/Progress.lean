import SyntaxExplorer.Parser.Error
import SyntaxExplorer.Program.Basic

/-!
# SyntaxExplorer.Parser.Progress

**How far a program has been read.** `Progress` holds the finished functions and
the `Stage` of the one being read: the constructs that are open, with everything
already read of them, and with it what may come next. One token of the text
leads from one stage to the next (`Progress.advance`), completes the program, or
shows that the tokens are not the start of any program.

The grammar, where `+` and `*` repeat and `?` marks an optional part:

    program    := function+
    function   := type id "(" (param ("," param)*)? ")" "{" statement+ "}"
    param      := type id
    statement  := type id ("=" expression)? ";"
                | id "=" expression ";"
                | "if" "(" expression ")" block ("else" block)?
                | "while" "(" expression ")" block
                | "return" expression? ";"
    block      := "{" statement+ "}"
    expression := term (("+" | "-") term)*
    term       := factor (("*" | "/") factor)*
    factor     := number | id | "(" expression ")"

Open constructs form a chain that ends at a function body (`Site`) and, inside
an expression, a chain of parenthesised levels (`Operands`), so no text is
nested too deeply to be read by a loop. A limit is set all the same. Whoever reads
counts the levels: `Stage.nesting` says which tokens open and close one, and
`Stage.leave` what an error, which leaves all of them, makes of the count. Where a
level would open, `Progress.advance` compares the count with the limit.
-/

namespace SyntaxExplorer

/-- The type keywords. -/
def TypeName.ofLexeme? : Lexeme → Option TypeName
  | .keyword .int => some .int
  | .keyword .char => some .char
  | .keyword .void => some .void
  | _ => none

/-! ### What is open -/

/-- The part of a function definition in front of its parameters. -/
structure Signature where
  name : String
  returnType : TypeName
  location : Location
  deriving Repr, DecidableEq

/-- The part of a function definition in front of its body. -/
structure Header where
  signature : Signature
  params : List Param
  deriving Repr, DecidableEq

/-- The function with this header and body. -/
def Header.function (h : Header) (body : List Statement) : Function :=
  ⟨h.signature.name, h.signature.returnType, h.params, body, h.signature.location⟩

/-- The statement that owns a block, with what was read of it before the block. -/
inductive BlockOwner
  | ifThen (condition : Expr) (location : Location)
  | ifElse (condition : Expr) (thenBranch : List Statement) (elseLocation location : Location)
  | whileLoop (condition : Expr) (location : Location)
  deriving Repr

def BlockOwner.kind : BlockOwner → BlockKind
  | ifThen .. => .ifBlock
  | ifElse .. => .elseBlock
  | whileLoop .. => .whileBlock

/-- Where a statement stands: behind the statements `before` (the last one
first) of a function body, or of a block that is part of a statement which
stands at `outer`. -/
inductive Site
  | body (header : Header) (before : List Statement)
  | block (owner : BlockOwner) (before : List Statement) (outer : Site)
  deriving Repr

namespace Site

/-- The place behind the statement `s`, which stands here. -/
def behind (s : Statement) : Site → Site
  | body header before => body header (s :: before)
  | block owner before outer => block owner (s :: before) outer

/-- What is left of the count `depth` when an error leaves the blocks from the
innermost to the outermost: each of them takes itself off. -/
def leave : Site → Nat → Nat
  | body .., depth => depth
  | block _ _ outer, depth => outer.leave (depth - 1)

end Site

/-- A left operand and the operator behind it. -/
structure Pending where
  left : Expr
  op : Operator
  location : Location
  deriving Repr, DecidableEq

/-- The operation, now that its right operand is known. -/
def Pending.apply (p : Pending) (right : Expr) : Expr := .binary p.op p.left right p.location

/-- The operators of one level of an expression that still want their right
operand: a sum and, inside its right operand, a product. -/
structure Operands where
  sum : Option Pending
  product : Option Pending
  deriving Repr, DecidableEq

namespace Operands

/-- Nothing is pending where a level starts. -/
def none : Operands := ⟨.none, .none⟩

/-- The term that the factor completes. -/
def term (o : Operands) (factor : Expr) : Expr :=
  match o.product with
  | some p => p.apply factor
  | .none => factor

/-- The expression that the factor completes. -/
def expression (o : Operands) (factor : Expr) : Expr :=
  match o.sum with
  | some p => p.apply (o.term factor)
  | .none => o.term factor

/-- A multiplicative operator follows the factor. -/
def thenProduct (o : Operands) (factor : Expr) (op : Operator) (here : Location) : Operands :=
  { o with product := some ⟨o.term factor, op, here⟩ }

/-- An additive operator follows the factor. -/
def thenSum (o : Operands) (factor : Expr) (op : Operator) (here : Location) : Operands :=
  ⟨some ⟨o.expression factor, op, here⟩, .none⟩

end Operands

/-- What an expression is read for. -/
inductive Purpose
  | initializer (name : String) (type : TypeName) (location : Location)
  | assigned (target : String) (location : Location)
  | ifCondition (location : Location)
  | whileCondition (location : Location)
  | returned (location : Location)
  deriving Repr, DecidableEq

/-- An open expression: what it is read for, the pending operators of its
innermost level and, the innermost first, of the levels around that one. -/
structure OpenExpr where
  purpose : Purpose
  operands : Operands
  outer : List Operands
  deriving Repr, DecidableEq

/-- An expression of which nothing has been read. -/
def OpenExpr.begin (purpose : Purpose) : OpenExpr := ⟨purpose, .none, []⟩

/-- The place in the grammar that has been reached, by what may come next. -/
inductive Stage
  /-- A function or, behind the first function, the end of the text. -/
  | definition
  /-- The name of a function. -/
  | functionName (returnType : TypeName) (location : Location)
  /-- The parenthesis behind the name of a function. -/
  | paramsOpen (signature : Signature)
  /-- The first parameter or the closing parenthesis. -/
  | firstParam (signature : Signature)
  /-- A parameter, behind the parameters `before` (the last one first). -/
  | param (signature : Signature) (before : List Param)
  /-- The name of a parameter. -/
  | paramName (signature : Signature) (before : List Param) (type : TypeName)
    (location : Location)
  /-- The comma or parenthesis behind a parameter. -/
  | paramsNext (signature : Signature) (before : List Param)
  /-- The opening brace of a function body. -/
  | bodyOpen (header : Header)
  /-- The first statement of a body or block. -/
  | firstStatement (site : Site)
  /-- A further statement of a body or block, or its closing brace. -/
  | nextStatement (site : Site)
  /-- The name that is declared. -/
  | declaredName (type : TypeName) (location : Location) (site : Site)
  /-- What is behind a declared name: the initializer or the semicolon. -/
  | initializer (name : String) (type : TypeName) (location : Location) (site : Site)
  /-- The assignment sign behind a target. -/
  | assignSign (target : String) (location : Location) (site : Site)
  /-- The parenthesis in front of a condition. -/
  | ifOpen (location : Location) (site : Site)
  | whileOpen (location : Location) (site : Site)
  /-- The value behind `return`, or the semicolon. -/
  | returned (location : Location) (site : Site)
  /-- A factor. -/
  | factor (e : OpenExpr) (site : Site)
  /-- What is behind a factor: an operator, or the end of the expression. -/
  | operator (e : OpenExpr) (read : Expr) (site : Site)
  /-- The opening brace of a block. -/
  | blockOpen (owner : BlockOwner) (site : Site)
  /-- What is behind the block of an `if`: its `else` or the next statement. -/
  | thenClosed (condition : Expr) (thenBranch : List Statement) (location : Location)
    (site : Site)
  deriving Repr

/-- What a token does to the levels that are open. -/
inductive Nesting
  | opens | closes | keeps
  deriving Repr, DecidableEq

namespace Nesting

/-- The count of open levels behind a token, from the count `depth` in front of it. -/
def count : Nesting → Nat → Nat
  | opens, depth => depth + 1
  | closes, depth => depth - 1
  | keeps, depth => depth

/-- A level opens with the symbol `s`. -/
def opensAt (s : Symbol) (t : Token) : Nesting :=
  if t.lexeme = .symbol s then opens else keeps

/-- A level closes with the symbol `s`. -/
def closesAt (s : Symbol) (t : Token) : Nesting :=
  if t.lexeme = .symbol s then closes else keeps

end Nesting

namespace Stage

/-- What the token `t` does to the levels that are open, where it fits. A
parenthesised factor and a block open a level with their first token and close it
with their last one; the braces of a function body are no level. -/
def nesting (stage : Stage) (t : Token) : Nesting :=
  match stage with
  | .factor .. | .returned .. => .opensAt .openParen t
  | .blockOpen .. => .opensAt .openBrace t
  | .operator ⟨_, _, _ :: _⟩ .. => .closesAt .closeParen t
  | .nextStatement (.block ..) | .thenClosed _ _ _ (.block ..) => .closesAt .closeBrace t
  | _ => .keeps

/-- What is left of the count `depth` when an error leaves all open levels: each
parenthesised level takes itself off, and then each block does (`Site.leave`). -/
def leave (stage : Stage) (depth : Nat) : Nat :=
  match stage with
  | definition | functionName .. | paramsOpen .. | firstParam .. | param .. | paramName ..
  | paramsNext .. | bodyOpen .. => depth
  | firstStatement site | nextStatement site | declaredName _ _ site | initializer _ _ _ site
  | assignSign _ _ site | ifOpen _ site | whileOpen _ site | returned _ site
  | blockOpen _ site | thenClosed _ _ _ site => site.leave depth
  | factor e site | operator e _ site => site.leave (e.outer.foldl (fun depth _ => depth - 1) depth)

end Stage

/-- How far a program has been read: its finished functions, the last one first,
and the place reached behind them. -/
structure Progress where
  before : List Function
  stage : Stage
  deriving Repr

/-- Nothing has been read. -/
def Progress.start : Progress := ⟨[], .definition⟩

/-- What a token leads to. -/
inductive Outcome
  /-- The token is part of the program, which goes on. -/
  | shift (next : Progress)
  /-- The token ends the text, and the program is complete. -/
  | accept (program : Program)
  /-- No program goes on with the token. -/
  | reject (fault : SyntaxFault)

/-! ### One token further -/

namespace Stage

/-- The stage that a token leads to, or why none does. -/
abbrev Move := Except SyntaxFault Stage

/-- A statement starts with `t`. -/
def beginStatement (site : Site) (t : Token) : Move :=
  match t.lexeme with
  | .keyword .int => .ok (.declaredName .int t.location site)
  | .keyword .char => .ok (.declaredName .char t.location site)
  | .keyword .void => .ok (.declaredName .void t.location site)
  | .identifier name => .ok (.assignSign name t.location site)
  | .keyword .ifWord => .ok (.ifOpen t.location site)
  | .keyword .whileWord => .ok (.whileOpen t.location site)
  | .keyword .returnWord => .ok (.returned t.location site)
  | found => .error (.unexpected found .statement)

/-- The factor that starts with `t`. A parenthesis opens a level, unless `depth`
levels are counted as open and that are `limit` of them already. -/
def beginFactor (limit depth : Nat) (e : OpenExpr) (site : Site) (t : Token) : Move :=
  match t.lexeme with
  | .number value => .ok (.operator e (.ofValue value t.location) site)
  | .identifier name => .ok (.operator e (.id name t.location) site)
  | .symbol .openParen =>
    if limit ≤ depth then .error .tooDeep
    else .ok (.factor ⟨e.purpose, .none, e.operands :: e.outer⟩ site)
  | found => .error (.unexpected found .expression)

/-- The expression `value` is complete, and `t` must be what follows it. -/
def endExpression (purpose : Purpose) (value : Expr) (site : Site) (t : Token) : Move :=
  match purpose with
  | .initializer name type here =>
    match t.lexeme with
    | .symbol .semicolon =>
      .ok (.nextStatement (site.behind (.declaration name type (some value) here)))
    | found => .error (.unexpected found .semicolonAfterDeclaration)
  | .assigned target here =>
    match t.lexeme with
    | .symbol .semicolon => .ok (.nextStatement (site.behind (.assignment target value here)))
    | found => .error (.unexpected found .semicolonAfterAssignment)
  | .ifCondition here =>
    match t.lexeme with
    | .symbol .closeParen => .ok (.blockOpen (.ifThen value here) site)
    | found => .error (.unexpected found .closeParenAfterIf)
  | .whileCondition here =>
    match t.lexeme with
    | .symbol .closeParen => .ok (.blockOpen (.whileLoop value here) site)
    | found => .error (.unexpected found .closeParenAfterWhile)
  | .returned here =>
    match t.lexeme with
    | .symbol .semicolon => .ok (.nextStatement (site.behind (.returnValue (some value) here)))
    | found => .error (.unexpected found .semicolonAfterReturn)

/-- Behind the factor `read` stands `t`: an operator, the parenthesis that
closes the level, or what follows the whole expression. -/
def afterFactor (e : OpenExpr) (read : Expr) (site : Site) (t : Token) : Move :=
  let product (op : Operator) : Stage :=
    .factor { e with operands := e.operands.thenProduct read op t.location } site
  let sum (op : Operator) : Stage :=
    .factor { e with operands := e.operands.thenSum read op t.location } site
  match t.lexeme with
  | .symbol .star => .ok (product .mul)
  | .symbol .slash => .ok (product .div)
  | .symbol .plus => .ok (sum .add)
  | .symbol .minus => .ok (sum .sub)
  | found =>
    match e.outer with
    | [] => endExpression e.purpose (e.operands.expression read) site t
    | around :: outer =>
      match found with
      | .symbol .closeParen =>
        .ok (.operator ⟨e.purpose, around, outer⟩ (e.operands.expression read) site)
      | _ => .error (.unexpected found .closeParenOfExpression)

/-- The block of `owner` holds the statements `body`, and is closed. -/
def closeBlock (owner : BlockOwner) (body : List Statement) (site : Site) : Stage :=
  match owner with
  | .ifThen condition here => .thenClosed condition body here site
  | .ifElse condition thenBranch elseHere here =>
    .nextStatement (site.behind (.ifElse condition thenBranch body elseHere here))
  | .whileLoop condition here => .nextStatement (site.behind (.whileLoop condition body here))

end Stage

namespace Progress

/-- Lift a move of the current function to the whole program. -/
def move (before : List Function) : Stage.Move → Outcome
  | .ok stage => .shift ⟨before, stage⟩
  | .error fault => .reject fault

/-- Behind a statement stands `t`: the next statement, or the brace that closes
the list of statements. -/
def afterStatement (before : List Function) (site : Site) (t : Token) : Outcome :=
  match t.lexeme, site with
  | .symbol .closeBrace, .body header statements =>
    .shift ⟨header.function statements.reverse :: before, .definition⟩
  | .symbol .closeBrace, .block owner statements outer =>
    .shift ⟨before, Stage.closeBlock owner statements.reverse outer⟩
  | _, _ => move before (Stage.beginStatement site t)

/-- What the token `t` leads to, where at most `limit` levels may be open and
`depth` are counted as open. -/
def advance (limit depth : Nat) (p : Progress) (t : Token) : Outcome :=
  let go (stage : Stage) : Outcome := .shift ⟨p.before, stage⟩
  let wanted (expected : Expectation) : Outcome := .reject (.unexpected t.lexeme expected)
  match p.stage with
  | .definition =>
    match TypeName.ofLexeme? t.lexeme with
    | some type => go (.functionName type t.location)
    | none =>
      match t.lexeme, p.before with
      | .endOfFile, _ :: _ => .accept ⟨p.before.reverse⟩
      | _, _ => wanted .type
  | .functionName type here =>
    match t.lexeme with
    | .identifier name => go (.paramsOpen ⟨name, type, here⟩)
    | _ => wanted .identifier
  | .paramsOpen signature =>
    match t.lexeme with
    | .symbol .openParen => go (.firstParam signature)
    | _ => wanted .openParenAfterName
  | .firstParam signature =>
    match t.lexeme with
    | .symbol .closeParen => go (.bodyOpen ⟨signature, []⟩)
    | found =>
      match TypeName.ofLexeme? found with
      | some type => go (.paramName signature [] type t.location)
      | none => wanted .type
  | .param signature params =>
    match TypeName.ofLexeme? t.lexeme with
    | some type => go (.paramName signature params type t.location)
    | none => wanted .type
  | .paramName signature params type here =>
    match t.lexeme with
    | .identifier name => go (.paramsNext signature (⟨name, type, here⟩ :: params))
    | _ => wanted .identifier
  | .paramsNext signature params =>
    match t.lexeme with
    | .symbol .comma => go (.param signature params)
    | .symbol .closeParen => go (.bodyOpen ⟨signature, params.reverse⟩)
    | _ => wanted .closeParenAfterParams
  | .bodyOpen header =>
    match t.lexeme with
    | .symbol .openBrace => go (.firstStatement (.body header []))
    | _ => wanted .openBraceBeforeBody
  | .firstStatement site => move p.before (Stage.beginStatement site t)
  | .nextStatement site => afterStatement p.before site t
  | .declaredName type here site =>
    match t.lexeme with
    | .identifier name => go (.initializer name type here site)
    | _ => wanted .identifier
  | .initializer name type here site =>
    match t.lexeme with
    | .symbol .assign => go (.factor (.begin (.initializer name type here)) site)
    | .symbol .semicolon => go (.nextStatement (site.behind (.declaration name type none here)))
    | _ => wanted .semicolonAfterDeclaration
  | .assignSign target here site =>
    match t.lexeme with
    | .symbol .assign => go (.factor (.begin (.assigned target here)) site)
    | _ => wanted .assignAfterTarget
  | .ifOpen here site =>
    match t.lexeme with
    | .symbol .openParen => go (.factor (.begin (.ifCondition here)) site)
    | _ => wanted .openParenAfterIf
  | .whileOpen here site =>
    match t.lexeme with
    | .symbol .openParen => go (.factor (.begin (.whileCondition here)) site)
    | _ => wanted .openParenAfterWhile
  | .returned here site =>
    match t.lexeme with
    | .symbol .semicolon => go (.nextStatement (site.behind (.returnValue none here)))
    | _ => move p.before (Stage.beginFactor limit depth (.begin (.returned here)) site t)
  | .factor e site => move p.before (Stage.beginFactor limit depth e site t)
  | .operator e read site => move p.before (Stage.afterFactor e read site t)
  | .blockOpen owner site =>
    if limit ≤ depth then .reject .tooDeep
    else
      match t.lexeme with
      | .symbol .openBrace => go (.firstStatement (.block owner [] site))
      | _ => wanted (.openBraceOf owner.kind)
  | .thenClosed condition thenBranch here site =>
    match t.lexeme with
    | .keyword .elseWord => go (.blockOpen (.ifElse condition thenBranch t.location here) site)
    | _ => afterStatement p.before (site.behind (.ifThen condition thenBranch here)) t

end Progress

end SyntaxExplorer
