import SyntaxExplorer.Parser.Progress

/-!
# SyntaxExplorer.Proofs.Grammar

**The grammar as derivations.** The productions, each list and each layer of an
expression recursing on the left:

    function_list  := function | function_list function
    function       := type ID '(' param_list ')' '{' statement_list '}'
    param_list     := ε | param | param_list ',' param
    param          := type ID
    statement_list := statement | statement_list statement
    statement      := type ID ';' | type ID '=' expression ';'
                    | ID '=' expression ';'
                    | IF '(' expression ')' block
                    | IF '(' expression ')' block ELSE block
                    | WHILE '(' expression ')' block
                    | RETURN expression ';' | RETURN ';'
    block          := '{' statement_list '}'
    expression     := term | expression '+' term | expression '-' term
    term           := factor | term '*' factor | term '/' factor
    factor         := NUMBER | ID | '(' expression ')'

The production of `param_list` derives an empty list in front of a comma too, so it has
the list `, int a` among its own (`IsParamList`). In `IsParams` a comma stands between two
parameters only; nothing else tells the two apart (`isParams_iff`). The sentences of the
grammar are those of `IsSentence`, and `IsProgram` is about those that have lists of the
second kind only.

Each production builds the tree of its phrase from the trees of its parts. A
phrase is a list of tokens together with the number of levels that are open in
front of each of them: a level is a parenthesised factor or a block, and a token
that closes one still stands inside it. The deepest point of a phrase is thus in
front of one of its tokens (`NestsWithin`).

The relations say nothing about how a phrase is read, from which side, or with
what limit on its levels.
-/

namespace SyntaxExplorer

/-- The reserved word of a `TypeName`. -/
def TypeName.word : TypeName → Keyword
  | int => .int
  | char => .char
  | void => .void

/-- The `Symbol` of an `Operator`. -/
def Operator.sign : Operator → Symbol
  | add => .plus
  | sub => .minus
  | mul => .star
  | div => .slash

/-- `isAdditive op`: is `op` an operator of a sum? The others are those of a product. -/
def Operator.isAdditive : Operator → Bool
  | add => true
  | sub => true
  | mul => false
  | div => false

namespace Grammar

/-! ### Phrases -/

/-- A token of a phrase, and the number of levels open in front of it. -/
structure Placed where
  token : Token
  depth : Nat
  deriving Repr, DecidableEq

abbrev Phrase := List Placed

/-- The tokens of a phrase. -/
def tokens (s : Phrase) : List Token := s.map Placed.token

@[simp] theorem tokens_nil : tokens [] = [] := rfl

@[simp] theorem tokens_cons (x : Placed) (s : Phrase) :
    tokens (x :: s) = x.token :: tokens s := rfl

@[simp] theorem tokens_append (s u : Phrase) : tokens (s ++ u) = tokens s ++ tokens u :=
  List.map_append

/-- At most `limit` levels enclose any point of the phrase. -/
def NestsWithin (limit : Nat) (s : Phrase) : Prop := ∀ x ∈ s, x.depth ≤ limit

instance (limit : Nat) (s : Phrase) : Decidable (NestsWithin limit s) :=
  inferInstanceAs (Decidable (∀ x ∈ s, x.depth ≤ limit))

@[simp] theorem nestsWithin_nil (limit : Nat) : NestsWithin limit [] := by
  simp [NestsWithin]

@[simp] theorem nestsWithin_cons (limit : Nat) (x : Placed) (s : Phrase) :
    NestsWithin limit (x :: s) ↔ x.depth ≤ limit ∧ NestsWithin limit s := by
  simp [NestsWithin]

@[simp] theorem nestsWithin_append (limit : Nat) (s u : Phrase) :
    NestsWithin limit (s ++ u) ↔ NestsWithin limit s ∧ NestsWithin limit u := by
  simp [NestsWithin, or_imp, forall_and]

/-- Every phrase `NestsWithin` some limit. -/
theorem exists_nestsWithin (s : Phrase) : ∃ limit, NestsWithin limit s := by
  induction s with
  | nil => exact ⟨0, nestsWithin_nil 0⟩
  | cons x s ih =>
      obtain ⟨limit, h⟩ := ih
      refine ⟨max x.depth limit, (nestsWithin_cons ..).2 ⟨Nat.le_max_left .., ?_⟩⟩
      intro y hy
      exact Nat.le_trans (h y hy) (Nat.le_max_right ..)

/-- A phrase that `NestsWithin` a limit nests within a greater one. -/
theorem NestsWithin.mono {limit limit' : Nat} {s : Phrase} (h : NestsWithin limit s)
    (hle : limit ≤ limit') : NestsWithin limit' s :=
  fun x hx => Nat.le_trans (h x hx) hle

abbrev key (k : Keyword) (here : Location) (depth : Nat) : Placed := ⟨⟨.keyword k, here⟩, depth⟩

abbrev sym (s : Symbol) (here : Location) (depth : Nat) : Placed := ⟨⟨.symbol s, here⟩, depth⟩

abbrev ident (name : String) (here : Location) (depth : Nat) : Placed :=
  ⟨⟨.identifier name, here⟩, depth⟩

abbrev num (value : Int) (here : Location) (depth : Nat) : Placed :=
  ⟨⟨.number value, here⟩, depth⟩

/-! ### Expressions -/

/-- The nonterminals of an expression. -/
inductive Layer
  | expression | term | factor
  deriving Repr, DecidableEq

/-- `IsExpr layer depth s e`: the phrase `s`, which stands inside `depth` levels,
is derived from the layer and has the tree `e`. -/
inductive IsExpr : Layer → Nat → Phrase → Expr → Prop
  | ofTerm {depth s e} : IsExpr .term depth s e → IsExpr .expression depth s e
  | sum {depth s u op left right here} : op.isAdditive = true →
      IsExpr .expression depth s left → IsExpr .term depth u right →
      IsExpr .expression depth (s ++ sym op.sign here depth :: u) (.binary op left right here)
  | ofFactor {depth s e} : IsExpr .factor depth s e → IsExpr .term depth s e
  | product {depth s u op left right here} : op.isAdditive = false →
      IsExpr .term depth s left → IsExpr .factor depth u right →
      IsExpr .term depth (s ++ sym op.sign here depth :: u) (.binary op left right here)
  | number {depth value here} : IsExpr .factor depth [num value here depth] (.ofValue value here)
  | id {depth name here} : IsExpr .factor depth [ident name here depth] (.id name here)
  /-- Parentheses open a level and leave no node. -/
  | parens {depth s e} (opening closing : Location) : IsExpr .expression (depth + 1) s e →
      IsExpr .factor depth
        (sym .openParen opening depth :: s ++ [sym .closeParen closing (depth + 1)]) e

theorem IsExpr.ne_nil {layer : Layer} {depth : Nat} {s : Phrase} {e : Expr}
    (h : IsExpr layer depth s e) : s ≠ [] := by
  induction h <;> simp_all

/-! ### Statements -/

mutual

/-- `IsStatement depth s st`: the phrase `s`, which stands inside `depth` levels,
is a statement with the tree `st`. -/
inductive IsStatement : Nat → Phrase → Statement → Prop
  | declaration {depth name type here} (atName atEnd : Location) :
      IsStatement depth
        [key type.word here depth, ident name atName depth, sym .semicolon atEnd depth]
        (.declaration name type none here)
  | initialized {depth s e name type here} (atName atSign atEnd : Location) :
      IsExpr .expression depth s e →
      IsStatement depth
        (key type.word here depth :: ident name atName depth :: sym .assign atSign depth ::
          (s ++ [sym .semicolon atEnd depth]))
        (.declaration name type (some e) here)
  | assignment {depth s e name here} (atSign atEnd : Location) : IsExpr .expression depth s e →
      IsStatement depth
        (ident name here depth :: sym .assign atSign depth ::
          (s ++ [sym .semicolon atEnd depth]))
        (.assignment name e here)
  | ifThen {depth s e u body here} (opening closing : Location) :
      IsExpr .expression depth s e → IsBlock depth u body →
      IsStatement depth
        (key .ifWord here depth :: sym .openParen opening depth ::
          (s ++ sym .closeParen closing depth :: u))
        (.ifThen e body here)
  | ifElse {depth s e u body v other elseHere here} (opening closing : Location) :
      IsExpr .expression depth s e → IsBlock depth u body → IsBlock depth v other →
      IsStatement depth
        (key .ifWord here depth :: sym .openParen opening depth ::
          (s ++ sym .closeParen closing depth :: (u ++ key .elseWord elseHere depth :: v)))
        (.ifElse e body other elseHere here)
  | whileLoop {depth s e u body here} (opening closing : Location) :
      IsExpr .expression depth s e → IsBlock depth u body →
      IsStatement depth
        (key .whileWord here depth :: sym .openParen opening depth ::
          (s ++ sym .closeParen closing depth :: u))
        (.whileLoop e body here)
  | returnNone {depth here} (atEnd : Location) :
      IsStatement depth [key .returnWord here depth, sym .semicolon atEnd depth]
        (.returnValue none here)
  | returnSome {depth s e here} (atEnd : Location) : IsExpr .expression depth s e →
      IsStatement depth (key .returnWord here depth :: (s ++ [sym .semicolon atEnd depth]))
        (.returnValue (some e) here)

/-- A list of one or more statements, the last of them appended by `more`. -/
inductive IsStatements : Nat → Phrase → List Statement → Prop
  | one {depth s st} : IsStatement depth s st → IsStatements depth s [st]
  | more {depth s ss u st} : IsStatements depth s ss → IsStatement depth u st →
      IsStatements depth (s ++ u) (ss ++ [st])

/-- A list of statements between braces, which are a level. -/
inductive IsBlock : Nat → Phrase → List Statement → Prop
  | braces {depth s ss} (opening closing : Location) : IsStatements (depth + 1) s ss →
      IsBlock depth
        (sym .openBrace opening depth :: (s ++ [sym .closeBrace closing (depth + 1)])) ss

end

/-! ### Functions and programs -/

inductive IsParam : Phrase → Param → Prop
  | param {name type here} (atName : Location) :
      IsParam [key type.word here 0, ident name atName 0] ⟨name, type, here⟩

/-- A list of parameters as the production `param_list` derives it: `more` appends a parameter
to any list, and so also to the empty one. -/
inductive IsParamList : Phrase → List Param → Prop
  | none : IsParamList [] []
  | one {s p} : IsParam s p → IsParamList s [p]
  | more {s ps u p} (comma : Location) : IsParamList s ps → IsParam u p →
      IsParamList (s ++ sym .comma comma 0 :: u) (ps ++ [p])

/-- An `IsParamList` with a comma between every two parameters and nowhere else: `more` appends
to a list that is not empty. This is what the parser takes. -/
inductive IsParams : Phrase → List Param → Prop
  | none : IsParams [] []
  | one {s p} : IsParam s p → IsParams s [p]
  | more {s ps u p} (comma : Location) : IsParams s ps → ps ≠ [] → IsParam u p →
      IsParams (s ++ sym .comma comma 0 :: u) (ps ++ [p])

theorem IsParams.eq_nil {s : Phrase} (h : IsParams s []) : s = [] := by
  generalize hps : [] = ps at h
  cases h with
  | none => rfl
  | one => simp at hps
  | more => simp at hps

theorem IsParams.ne_nil {s : Phrase} {ps : List Param} (h : IsParams s ps) (hps : ps ≠ []) :
    s ≠ [] := by
  cases h with
  | none => exact absurd rfl hps
  | one hp =>
      cases hp
      simp
  | more => simp

/-- No list of `IsParams` begins with a comma. -/
theorem IsParams.head_ne_comma {s : Phrase} {ps : List Param} (h : IsParams s ps) :
    ∀ x ∈ s.head?, x.token.lexeme ≠ .symbol .comma := by
  induction h with
  | none => simp
  | one hp =>
      cases hp
      simp
  | more comma hs hps _ ih =>
      obtain ⟨x, s, rfl⟩ := List.exists_cons_of_ne_nil (hs.ne_nil hps)
      simpa using ih

/-- The grammar derives a list of `IsParamList` behind an empty one as well, and then it begins
with a comma: that is all it has beyond the lists of `IsParams`. -/
theorem isParamList_iff {s : Phrase} {ps : List Param} :
    IsParamList s ps ↔
      IsParams s ps ∨ ∃ comma u, s = sym .comma comma 0 :: u ∧ ps ≠ [] ∧ IsParams u ps := by
  constructor
  · intro h
    induction h with
    | none => exact .inl .none
    | one hp => exact .inl (.one hp)
    | @more s ps u p comma hs hp ih =>
        rcases ih with hparams | ⟨first, v, rfl, hne, hparams⟩
        · by_cases hne : ps = []
          · subst hne
            obtain rfl := hparams.eq_nil
            exact .inr ⟨comma, u, rfl, by simp, .one hp⟩
          · exact .inl (.more comma hparams hne hp)
        · exact .inr ⟨first, _, rfl, by simp, .more comma hparams hne hp⟩
  · have hstrict : ∀ {s ps}, IsParams s ps → IsParamList s ps := by
      intro s ps h
      induction h with
      | none => exact .none
      | one hp => exact .one hp
      | more comma _ _ hp ih => exact .more comma ih hp
    have hcomma : ∀ {u ps} (comma : Location), IsParams u ps → ps ≠ [] →
        IsParamList (sym .comma comma 0 :: u) ps := by
      intro u ps comma h hne
      induction h with
      | none => exact absurd rfl hne
      | one hp => exact .more comma .none hp
      | more comma' _ hps hp ih => exact .more comma' (ih hps) hp
    rintro (h | ⟨comma, u, rfl, hne, h⟩)
    · exact hstrict h
    · exact hcomma comma h hne

/-- **Where a list may begin with a comma.** The lists of `IsParams` are those of the grammar,
`IsParamList`, that do not begin with a comma. -/
theorem isParams_iff {s : Phrase} {ps : List Param} :
    IsParams s ps ↔ IsParamList s ps ∧ ∀ x ∈ s.head?, x.token.lexeme ≠ .symbol .comma := by
  rw [isParamList_iff]
  constructor
  · exact fun h => ⟨.inl h, h.head_ne_comma⟩
  · rintro ⟨h | ⟨comma, u, rfl, -, -⟩, hhead⟩
    · exact h
    · exact absurd rfl (hhead _ rfl)

/-- A function definition in front of the statements of its body. Its list of parameters is
one of `lists`. -/
inductive IsHeader (lists : Phrase → List Param → Prop) : Phrase → Header → Prop
  | header {s ps name type here} (atName opening closing brace : Location) : lists s ps →
      IsHeader lists
        (key type.word here 0 :: ident name atName 0 :: sym .openParen opening 0 ::
          (s ++ [sym .closeParen closing 0, sym .openBrace brace 0]))
        ⟨⟨name, type, here⟩, ps⟩

/-- A function definition, with the lists of parameters that `lists` derives. The braces of its
body are no level. -/
inductive IsFunction (lists : Phrase → List Param → Prop) : Phrase → Function → Prop
  | function {s header u body} (closing : Location) : IsHeader lists s header →
      IsStatements 0 u body →
      IsFunction lists (s ++ (u ++ [sym .closeBrace closing 0])) (header.function body)

/-- A list of one or more `IsFunction`s. -/
inductive IsFunctions (lists : Phrase → List Param → Prop) : Phrase → List Function → Prop
  | one {s f} : IsFunction lists s f → IsFunctions lists s [f]
  | more {s fs u f} : IsFunctions lists s fs → IsFunction lists u f →
      IsFunctions lists (s ++ u) (fs ++ [f])

theorem IsFunctions.ne_nil {lists : Phrase → List Param → Prop} {s : Phrase}
    {fs : List Function} (h : IsFunctions lists s fs) : fs ≠ [] := by
  cases h <;> simp

/-- The phrase is a sentence of the grammar, its lists of parameters as `IsParamList` has them,
and the program is its tree. -/
def IsSentence (s : Phrase) (p : Program) : Prop := IsFunctions IsParamList s p.functions

/-- The phrase is a sentence in which no list of parameters begins with a comma, as `IsParams`
has them, and the program is its tree. -/
def IsProgram (s : Phrase) (p : Program) : Prop := IsFunctions IsParams s p.functions

end Grammar

end SyntaxExplorer
