import SyntaxExplorer.Proofs.Node.Census

/-!
# SyntaxExplorer.Proofs.Node.Indented

**What an outline loses.** An outline shows no locations, and it runs the two
branches of an `if` with an `else` together. It loses nothing else: two programs
have the same outline exactly if they are the same without that
(`outline_eq_iff`).

An outline is a list of indented lines, and indentation alone says which entries
stand below which. That is the first step: a list of entries with their depths
belongs to one `Indented` only (`Indented.rows_inj`). The second step is about the
kinds. An entry has its primary and its secondary slot below it in one list, and
the body of a function comes behind the function, so every statement, every
expression and every function must be found again in such lists. Their kinds
tell them apart (`ofChain_statements_eq_iff`, `ofChain_functions_eq_iff`).
-/

namespace SyntaxExplorer

open Node

/-! ### Entries and their depths -/

/-- What an outline shows: an entry, what stands below it, and what comes next at
its level. -/
inductive Indented
  | nothing
  | entry (kind : NodeKind) (payload : Option String) (below next : Indented)
  deriving Repr, DecidableEq

namespace Indented

/-- A line of an outline, read. -/
structure Row where
  depth : Nat
  kind : NodeKind
  payload : Option String
  deriving Repr, DecidableEq

/-- The lines of the entries, the first one at this depth: a `Row` for each. -/
def rows (depth : Nat) : Indented → List Row
  | nothing => []
  | entry kind payload below next =>
    ⟨depth, kind, payload⟩ :: (rows (depth + 1) below ++ rows depth next)

/-- No line of the list belongs to a level of this depth that was open in front of it. -/
def Leaves (depth : Nat) (more : List Row) : Prop := ∀ row ∈ more.head?, row.depth < depth

theorem leaves_rows_append (depth : Nat) (f : Indented) {more : List Row}
    (h : Leaves depth more) : Leaves (depth + 1) (rows depth f ++ more) := by
  cases f with
  | nothing =>
      intro row hrow
      exact Nat.lt_succ_of_lt (h row hrow)
  | entry =>
      intro row hrow
      obtain rfl := Option.some.inj hrow
      exact Nat.lt_succ_self depth

/-- The `rows` of some entries determine these, up to where the rows leave their depth
(`Leaves`). -/
theorem rows_append_inj {depth : Nat} {f g : Indented} {more more' : List Row}
    (h : rows depth f ++ more = rows depth g ++ more') (hmore : Leaves depth more)
    (hmore' : Leaves depth more') : f = g ∧ more = more' := by
  induction f generalizing depth g more more' with
  | nothing =>
      cases g with
      | nothing => exact ⟨rfl, h⟩
      | entry =>
          obtain rfl : more = _ := h
          exact absurd (hmore _ rfl) (Nat.lt_irrefl depth)
  | entry kind payload below next ihb ihn =>
      cases g with
      | nothing =>
          obtain rfl : _ = more' := h
          exact absurd (hmore' _ rfl) (Nat.lt_irrefl depth)
      | entry kind' payload' below' next' =>
          simp only [rows, List.cons_append, List.cons.injEq, Row.mk.injEq, true_and,
            List.append_assoc] at h
          obtain ⟨⟨rfl, rfl⟩, hrest⟩ := h
          -- What is below is over where a line of this level or of one around it comes.
          obtain ⟨rfl, hnext⟩ := ihb hrest (leaves_rows_append depth next hmore)
            (leaves_rows_append depth next' hmore')
          obtain ⟨rfl, rfl⟩ := ihn hnext hmore hmore'
          exact ⟨rfl, rfl⟩

theorem rows_inj {depth : Nat} {f g : Indented} (h : rows depth f = rows depth g) : f = g := by
  have hnone : Leaves depth [] := by simp [Leaves]
  have hrows : rows depth f ++ [] = rows depth g ++ [] := by rw [h]
  exact (rows_append_inj hrows hnone hnone).1

/-! ### The entries of nodes -/

/-- The entries of a chain: both slots below a `Node`, its successor and the rest of the chain
behind it. -/
def ofChain : List Node → Indented
  | [] => nothing
  | n :: ns =>
    entry n.kind n.payload? (ofChain (n.primary ++ n.secondary)) (ofChain (n.successor ++ ns))
termination_by ns => weights ns
decreasing_by
  all_goals
    have := n.weight_eq
    simp only [weights_append, weights_cons]
    omega

@[simp] theorem ofChain_nil : ofChain [] = nothing := by
  rw [ofChain]

@[simp] theorem ofChain_cons (n : Node) (ns : List Node) :
    ofChain (n :: ns) =
      entry n.kind n.payload? (ofChain (n.primary ++ n.secondary))
        (ofChain (n.successor ++ ns)) := by
  rw [ofChain]

/-- The `Row` that a node is shown in. -/
def rowOf (x : Node × Nat) : Row := ⟨x.2, x.1.kind, x.1.payload?⟩

/-- The nodes of `Node.preOrder` are shown in the `rows` of the entries. -/
theorem rows_ofChain (depth : Nat) (ns : List Node) :
    rows depth (ofChain ns) = (preOrder depth ns).map rowOf := by
  fun_induction ofChain ns generalizing depth with
  | case1 => simp [rows]
  | case2 n ns ihb ihn =>
      simp only [rows, ihb, ihn, preOrder_cons, preOrder_append, List.map_cons, List.map_append,
        List.append_assoc]
      rfl

/-- Two chains have the same entries (`ofChain`) if their first nodes are shown alike, and so
is what is below these and what is behind them. -/
theorem ofChain_cons_eq_iff {n m : Node} {ns ms : List Node} :
    ofChain (n :: ns) = ofChain (m :: ms) ↔
      n.kind = m.kind ∧ n.payload? = m.payload? ∧
        ofChain (n.primary ++ n.secondary) = ofChain (m.primary ++ m.secondary) ∧
        ofChain (n.successor ++ ns) = ofChain (m.successor ++ ms) := by
  rw [ofChain_cons, ofChain_cons, entry.injEq]

end Indented

/-! ### What is shown of a tree -/

namespace Operator

theorem symbol_inj {op op' : Operator} (h : op.symbol = op'.symbol) : op = op' := by
  cases op <;> cases op' <;> first | rfl | exact absurd h (by decide)

@[simp] theorem symbol_eq_iff {op op' : Operator} : op.symbol = op'.symbol ↔ op = op' :=
  ⟨symbol_inj, congrArg symbol⟩

end Operator

namespace TypeName

theorem keyword_inj {t t' : TypeName} (h : t.keyword = t'.keyword) : t = t' := by
  cases t <;> cases t' <;> first | rfl | exact absurd h (by decide)

@[simp] theorem keyword_eq_iff {t t' : TypeName} : t.keyword = t'.keyword ↔ t = t' :=
  ⟨keyword_inj, congrArg keyword⟩

end TypeName

namespace Statement

/-- What an outline shows of a statement: it is `unlocated`, and its branches are `joined`. -/
def shown (s : Statement) : Statement := s.unlocated.joined

theorem shown_ifThen (condition : Expr) (body : List Statement) (here : Location) :
    (ifThen condition body here).shown =
      ifThen condition.unlocated (body.map shown) .nowhere := by
  simp [shown, unlocated, joined, allUnlocated_eq_map, allJoined_eq_map, Function.comp_def]

theorem shown_ifElse (condition : Expr) (body other : List Statement) (elseHere here : Location) :
    (ifElse condition body other elseHere here).shown =
      ifElse condition.unlocated ((body ++ other).map shown) [] .nowhere .nowhere := by
  simp only [shown, unlocated, joined, allUnlocated_eq_map, allJoined_eq_map, List.map_map,
    List.map_append]
  rfl

theorem shown_whileLoop (condition : Expr) (body : List Statement) (here : Location) :
    (whileLoop condition body here).shown =
      whileLoop condition.unlocated (body.map shown) .nowhere := by
  simp [shown, unlocated, joined, allUnlocated_eq_map, allJoined_eq_map, Function.comp_def]

theorem kind_shown (s : Statement) : s.shown.kind = s.kind := by
  cases s <;> simp [shown, unlocated, joined, kind]

theorem weight_pos (s : Statement) : 0 < s.weight := by
  cases s <;> simp only [weight] <;> omega

theorem weights_append (ss ss' : List Statement) :
    weights (ss ++ ss') = weights ss + weights ss' := by
  induction ss with
  | nil => simp [weights]
  | cons s ss ih => simp [weights, ih, Nat.add_assoc]

end Statement

namespace Indented

/-- The entries of an expression give it back `unlocated`. -/
theorem ofChain_expr_eq_iff (e e' : Expr) (ns ns' : List Node) :
    ofChain (expr e :: ns) = ofChain (expr e' :: ns') ↔
      e.unlocated = e'.unlocated ∧ ofChain ns = ofChain ns' := by
  induction e generalizing e' ns ns' with
  | number text here =>
      rw [ofChain_cons_eq_iff]
      cases e' <;> simp [kind, Expr.kind, payload?, primary, secondary, successor, Expr.unlocated]
  | id name here =>
      rw [ofChain_cons_eq_iff]
      cases e' <;> simp [kind, Expr.kind, payload?, primary, secondary, successor, Expr.unlocated]
  | binary op left right here ihl ihr =>
      rw [ofChain_cons_eq_iff]
      cases e' with
      | binary op' left' right' here' =>
          -- The right operand follows the left one in the list below the operator.
          simp only [kind, Expr.kind, payload?, primary, secondary, successor, List.cons_append,
            List.nil_append, ihl, ihr, Expr.unlocated, Expr.binary.injEq, Option.some.injEq,
            Operator.symbol_eq_iff, true_and, and_true, and_assoc]
      | _ => simp [kind, Expr.kind, Expr.unlocated]

theorem ofChain_expr?_eq_iff (e e' : Option Expr) :
    ofChain (ofExpr? e) = ofChain (ofExpr? e') ↔
      e.map Expr.unlocated = e'.map Expr.unlocated := by
  cases e <;> cases e' <;> simp [ofExpr?, ofChain_expr_eq_iff, -ofChain_cons] <;> simp

theorem ofChain_type_eq_iff (t t' : TypeName) (here here' : Location) (ns ns' : List Node) :
    ofChain (type t here :: ns) = ofChain (type t' here' :: ns') ↔
      t = t' ∧ ofChain ns = ofChain ns' := by
  rw [ofChain_cons_eq_iff]
  simp [kind, payload?, primary, secondary, successor]

/-- A `Node.ifBody` shows its two branches in one list. -/
theorem ofChain_ifBody_eq_iff (body other body' other' : List Statement)
    (here here' : Location) :
    ofChain [ifBody body other here] = ofChain [ifBody body' other' here'] ↔
      ofChain ((body ++ other).map statement) = ofChain ((body' ++ other').map statement) := by
  rw [ofChain_cons_eq_iff, List.map_append, List.map_append]
  simp [kind, payload?, primary, secondary, successor]

theorem ofChain_params_eq_iff (ps ps' : List Param) :
    ofChain (ps.map param) = ofChain (ps'.map param) ↔
      ps.map Param.unlocated = ps'.map Param.unlocated := by
  induction ps generalizing ps' with
  | nil => cases ps' <;> simp
  | cons p ps ih =>
      cases ps' with
      | nil => simp
      | cons p' ps' =>
          rw [List.map_cons, List.map_cons, ofChain_cons_eq_iff]
          simp only [kind, payload?, primary, secondary, successor, List.append_nil,
            List.nil_append, ofChain_type_eq_iff, ih, List.map_cons, List.cons.injEq,
            Param.unlocated, Param.mk.injEq, Option.some.injEq, true_and, and_true, and_assoc]

/-- The entries of a statement give back what is `shown` of it, if those of its blocks do. -/
theorem ofChain_statement_eq_iff (s s' : Statement) (ns ns' : List Node)
    (hblocks : ∀ ss ss' : List Statement, Statement.weights ss < s.weight →
      (ofChain (ss.map statement) = ofChain (ss'.map statement) ↔
        ss.map Statement.shown = ss'.map Statement.shown)) :
    ofChain (statement s :: ns) = ofChain (statement s' :: ns') ↔
      s.shown = s'.shown ∧ ofChain ns = ofChain ns' := by
  rw [ofChain_cons_eq_iff]
  by_cases hkind : s.kind = s'.kind
  · -- Statements of one kind have the same slots.
    cases s <;> cases s' <;> simp only [Statement.kind, reduceCtorEq] at hkind
    case declaration.declaration =>
      simp only [kind, Statement.kind, payload?, primary, secondary, successor,
        List.cons_append, List.nil_append, ofChain_type_eq_iff, ofChain_expr?_eq_iff,
        Statement.shown, Statement.unlocated, Statement.joined, Option.some.injEq,
        Statement.declaration.injEq, true_and, and_true, and_assoc]
    case assignment.assignment =>
      simp only [kind, Statement.kind, payload?, primary, secondary, successor,
        List.nil_append, ofChain_expr_eq_iff, Statement.shown, Statement.unlocated,
        Statement.joined, Option.some.injEq, Statement.assignment.injEq, true_and, and_true,
        and_assoc]
    case ifThen.ifThen condition body here condition' body' here' =>
      have hbody := hblocks body body' (by simp only [Statement.weight]; omega)
      simp only [kind, Statement.kind, payload?, primary, secondary, successor,
        List.cons_append, List.nil_append, ofChain_expr_eq_iff, hbody, Statement.shown_ifThen,
        Statement.ifThen.injEq, true_and, and_true, and_assoc]
    case ifElse.ifElse condition body other _ _ condition' body' other' _ _ =>
      -- The two branches are one list below the if-body.
      have hbranches := hblocks (body ++ other) (body' ++ other') (by
        simp only [Statement.weight, Statement.weights_append]
        omega)
      simp only [kind, Statement.kind, payload?, primary, secondary, successor,
        List.cons_append, List.nil_append, ofChain_expr_eq_iff, ofChain_ifBody_eq_iff, hbranches,
        Statement.shown_ifElse, Statement.ifElse.injEq, true_and, and_true, and_assoc]
    case whileLoop.whileLoop condition body here condition' body' here' =>
      have hbody := hblocks body body' (by simp only [Statement.weight]; omega)
      simp only [kind, Statement.kind, payload?, primary, secondary, successor,
        List.cons_append, List.nil_append, ofChain_expr_eq_iff, hbody, Statement.shown_whileLoop,
        Statement.whileLoop.injEq, true_and, and_true, and_assoc]
    case returnValue.returnValue =>
      simp only [kind, Statement.kind, payload?, primary, secondary, successor,
        List.nil_append, ofChain_expr?_eq_iff, Statement.shown, Statement.unlocated,
        Statement.joined, Statement.returnValue.injEq, true_and, and_true]
  · constructor
    · rintro ⟨h, -⟩
      exact absurd h hkind
    · rintro ⟨h, -⟩
      have hshown := congrArg Statement.kind h
      rw [Statement.kind_shown, Statement.kind_shown] at hshown
      exact absurd hshown hkind

/-- The entries of a function are never those of a statement. -/
theorem ofChain_functions_ne_statement (fs : List Function) (s : Statement) (ns : List Node) :
    ofChain (fs.map function) ≠ ofChain (statement s :: ns) := by
  cases fs with
  | nil => simp
  | cons f fs =>
      rw [List.map_cons, Ne, ofChain_cons_eq_iff]
      rintro ⟨h, -⟩
      cases s <;> cases h

/-- The entries of statements, in front of functions, give back what is `shown` of the
statements. -/
theorem ofChain_statements_eq_iff (ss ss' : List Statement) (fs fs' : List Function) :
    ofChain (ss.map statement ++ fs.map function) =
        ofChain (ss'.map statement ++ fs'.map function) ↔
      ss.map Statement.shown = ss'.map Statement.shown ∧
        ofChain (fs.map function) = ofChain (fs'.map function) := by
  match ss, ss' with
  | [], [] => simp
  | [], s' :: ss' => simpa using ofChain_functions_ne_statement fs s' _
  | s :: ss, [] => simpa using (ofChain_functions_ne_statement fs' s _).symm
  | s :: ss, s' :: ss' =>
      have hfirst := ofChain_statement_eq_iff s s' (ss.map statement ++ fs.map function)
        (ss'.map statement ++ fs'.map function) (by
          intro body body' hlt
          simpa using ofChain_statements_eq_iff body body' [] [])
      simp only [List.map_cons, List.cons_append, List.cons.injEq, hfirst,
        ofChain_statements_eq_iff ss ss' fs fs', and_assoc]
termination_by Statement.weights ss
decreasing_by
  all_goals
    have := s.weight_pos
    simp only [Statement.weights]
    omega

theorem ofChain_functions_eq_iff (fs fs' : List Function) :
    ofChain (fs.map function) = ofChain (fs'.map function) ↔
      (fs.map fun f => f.unlocated.joined) = fs'.map fun f => f.unlocated.joined := by
  induction fs generalizing fs' with
  | nil => cases fs' <;> simp
  | cons f fs ih =>
      cases fs' with
      | nil => simp
      | cons f' fs' =>
          have hbody : ∀ body : List Statement, (body.map Statement.unlocated).map
              Statement.joined = body.map Statement.shown := by
            intro body
            rw [List.map_map]
            rfl
          rw [List.map_cons, List.map_cons, ofChain_cons_eq_iff]
          simp only [kind, payload?, primary, secondary, successor, List.cons_append,
            List.nil_append, ofChain_type_eq_iff, ofChain_params_eq_iff,
            ofChain_statements_eq_iff, ih, List.map_cons, List.cons.injEq, Function.unlocated,
            Function.joined, hbody, Function.mk.injEq, Option.some.injEq, true_and, and_true,
            and_assoc]

/-! ### The entries of an outline -/

/-- The `rows` of the top chain are those of `Program.nodes`. -/
theorem rows_topLevel (p : Program) : rows 0 (ofChain p.topLevel) = p.nodes.map rowOf := by
  rw [rows_ofChain, Program.nodes_eq]

/-- The characters of the line of a `Row`, like `Outline.content` for a node. -/
def Row.content (indent : Nat) (row : Row) : List Char :=
  List.replicate (Outline.indentation indent row.depth) ' ' ++
    (row.kind.label.toList ++ Outline.behindLabel row.payload)

theorem toList_outline_eq_rows (p : Program) (indent : Nat) :
    (p.outline indent).toList =
      ((rows 0 (ofChain p.topLevel)).map (Row.content indent)).flatMap fun l => l ++ ['\n'] := by
  rw [Outline.toList_outline, rows_topLevel, List.map_map]
  rfl

end Indented

namespace Outline

theorem indentation_inj {indent depth depth' : Nat} (hindent : 1 ≤ indent)
    (h : indent * depth < 2 ^ 64) (h' : indent * depth' < 2 ^ 64)
    (heq : indentation indent depth = indentation indent depth') : depth = depth' := by
  have hmax : maxIndentation = 2 ^ 64 - 1 := rfl
  rw [indentation, indentation, hmax, Nat.mul_comm depth, Nat.mul_comm depth',
    Nat.min_eq_left (by omega), Nat.min_eq_left (by omega)] at heq
  exact Nat.eq_of_mul_eq_mul_left hindent heq

/-- The lines of nodes (`Outline.content`) show how deep these stand, where no indentation is
cut off. -/
theorem rows_of_content_eq {indent : Nat} (hindent : 1 ≤ indent) {xs ys : List (Node × Nat)}
    (hxs : ∀ x ∈ xs, indent * x.2 < 2 ^ 64) (hys : ∀ y ∈ ys, indent * y.2 < 2 ^ 64)
    (h : (xs.map fun x => content indent x.1 x.2) = ys.map fun y => content indent y.1 y.2) :
    xs.map Indented.rowOf = ys.map Indented.rowOf := by
  induction xs generalizing ys with
  | nil => cases ys <;> simp_all
  | cons x xs ih =>
      cases ys with
      | nil => simp at h
      | cons y ys =>
          rw [List.forall_mem_cons] at hxs hys
          rw [List.map_cons, List.map_cons, List.cons.injEq] at h
          obtain ⟨hdepth, hkind, hpayload⟩ := content_inj h.1
          have hrow : Indented.rowOf x = Indented.rowOf y := by
            rw [Indented.rowOf, Indented.rowOf, indentation_inj hindent hxs.1 hys.1 hdepth, hkind,
              hpayload]
          rw [List.map_cons, List.map_cons, hrow, ih hxs.2 hys.2 h.2]

end Outline

/-- The rows of the nodes can be read off a `Program.outline` in which no indentation is cut
off. -/
theorem rows_of_outline_eq {p q : Program} (hp : p.OneLined) (hq : q.OneLined) {indent : Nat}
    (hindent : 1 ≤ indent) (hpdepth : indent * (Census.ofProgram p).maxDepth < 2 ^ 64)
    (hqdepth : indent * (Census.ofProgram q).maxDepth < 2 ^ 64)
    (h : p.outline indent = q.outline indent) :
    p.nodes.map Indented.rowOf = q.nodes.map Indented.rowOf := by
  have hdepths : ∀ {r : Program}, indent * (Census.ofProgram r).maxDepth < 2 ^ 64 →
      ∀ x ∈ r.nodes, indent * x.2 < 2 ^ 64 := by
    intro r hr x hx
    exact Nat.lt_of_le_of_lt (Nat.mul_le_mul_left indent (Census.le_maxDepth hx)) hr
  have hlines : ∀ {r : Program}, r.OneLined →
      ∀ l ∈ r.nodes.map fun x => Outline.content indent x.1 x.2, '\n' ∉ l := by
    intro r hr l hl
    obtain ⟨x, hx, rfl⟩ := List.mem_map.1 hl
    exact Outline.lineFeed_not_mem_content indent x.1 x.2 (hr.payload x hx)
  have htext := congrArg String.toList h
  rw [Outline.toList_outline, Outline.toList_outline] at htext
  exact Outline.rows_of_content_eq hindent (hdepths hpdepth) (hdepths hqdepth)
    (Text.flatMap_lineFeed_inj (hlines hp) (hlines hq) htext)

/-- **What an outline loses.** Two programs have the same outline exactly if they are
the same without their locations and with the two branches of every `if` with an
`else` in one list. -/
theorem outline_eq_iff {p q : Program} (hp : p.OneLined) (hq : q.OneLined) {indent : Nat}
    (hindent : 1 ≤ indent) (hpdepth : indent * (Census.ofProgram p).maxDepth < 2 ^ 64)
    (hqdepth : indent * (Census.ofProgram q).maxDepth < 2 ^ 64) :
    p.outline indent = q.outline indent ↔ p.unlocated.joined = q.unlocated.joined := by
  have hshape : p.unlocated.joined = q.unlocated.joined ↔
      Indented.ofChain p.topLevel = Indented.ofChain q.topLevel := by
    rw [Program.topLevel, Program.topLevel, Indented.ofChain_functions_eq_iff]
    simp [Program.unlocated, Program.joined, Function.comp_def]
  rw [hshape]
  constructor
  · intro h
    have hrows := rows_of_outline_eq hp hq hindent hpdepth hqdepth h
    rw [← Indented.rows_topLevel, ← Indented.rows_topLevel] at hrows
    exact Indented.rows_inj hrows
  · intro h
    rw [← String.toList_inj, Indented.toList_outline_eq_rows, Indented.toList_outline_eq_rows, h]

/-- A statement of the first branch and one of the second look the same. -/
theorem outline_eq_of_other_branch :
    Program.outline ⟨[⟨"f", .void, [],
        [.ifElse (.id "x" .start) [.returnValue none .start] [] .start .start], .start⟩]⟩ 2 =
      Program.outline ⟨[⟨"f", .void, [],
        [.ifElse (.id "x" .start) [] [.returnValue none ⟨3, 7⟩] ⟨3, 1⟩ .start], .start⟩]⟩ 2 := by
  refine (outline_eq_iff (by decide) (by decide) (by decide) ?_ ?_).2 rfl
  · simp [Census.maxDepth_ofProgram, Program.nodes_eq, Program.topLevel, primary, secondary,
      successor, ofExpr?]
  · simp [Census.maxDepth_ofProgram, Program.nodes_eq, Program.topLevel, primary, secondary,
      successor, ofExpr?]

end SyntaxExplorer
