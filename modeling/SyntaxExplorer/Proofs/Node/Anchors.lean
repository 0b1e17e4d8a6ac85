import Mathlib.Data.List.Perm.Basic
import SyntaxExplorer.Proofs.Grammar.Trees
import SyntaxExplorer.Proofs.Node.Walk

/-!
# SyntaxExplorer.Proofs.Node.Anchors

**Every node of a sentence has a token of its own**, with the lexeme that the kind
of the node asks for (`Node.anchor`). Only the type nodes have none: a type node
stands right behind the node that owns it, and at the same token. Counted token by
token, the nodes of a tree take no more than its phrase has (`subperm_anchors`).
-/

namespace SyntaxExplorer

open Grammar

namespace Node

def isType : Node → Bool
  | type .. => true
  | _ => false

@[simp] theorem isType_type (t : TypeName) (here : Location) : (type t here).isType = true := rfl

/-- The lexeme at which a node stands. -/
def lexeme : Node → Lexeme
  | function f => .keyword f.returnType.word
  | type t _ => .keyword t.word
  | param p => .keyword p.type.word
  | statement (.declaration _ t _ _) => .keyword t.word
  | statement (.assignment target _ _) => .identifier target
  | statement (.ifThen ..) => .keyword .ifWord
  | statement (.ifElse ..) => .keyword .ifWord
  | statement (.whileLoop ..) => .keyword .whileWord
  | statement (.returnValue ..) => .keyword .returnWord
  | ifBody .. => .keyword .elseWord
  | expr (.binary op _ _ _) => .symbol op.sign
  | expr (.id name _) => .identifier name
  | expr (.number text _) => .number (Nat.ofDigitChars 10 text.toList 0)

/-- The token at which a node stands. -/
def anchor (n : Node) : Token := ⟨n.lexeme, n.location⟩

/-- The tokens of some nodes, one `anchor` for each that is no type. -/
def anchors (xs : List (Node × Nat)) : List Token :=
  (xs.filter fun x => !x.1.isType).map fun x => x.1.anchor

@[simp] theorem anchors_nil : anchors [] = [] := rfl

@[simp] theorem anchors_append (xs ys : List (Node × Nat)) :
    anchors (xs ++ ys) = anchors xs ++ anchors ys := by
  simp [anchors]

@[simp] theorem anchors_cons_type (t : TypeName) (here : Location) (depth : Nat)
    (xs : List (Node × Nat)) : anchors ((type t here, depth) :: xs) = anchors xs := rfl

theorem anchors_cons {n : Node} (h : n.isType = false) (depth : Nat) (xs : List (Node × Nat)) :
    anchors ((n, depth) :: xs) = n.anchor :: anchors xs := by
  simp [anchors, h]

end Node

open Node

namespace Grammar

/-! ### The tokens of trees -/

/-- The `anchors` of the nodes of a chain and below are among these tokens, each as often. -/
def Anchors (ns : List Node) (ts : List Token) : Prop :=
  ∀ depth t, (anchors (preOrder depth ns)).count t ≤ ts.count t

namespace Anchors

theorem nil (ts : List Token) : Anchors [] ts := by
  intro depth t
  simp

theorem append {ns ms : List Node} {ts us : List Token} (h : Anchors ns ts)
    (h' : Anchors ms us) : Anchors (ns ++ ms) (ts ++ us) := by
  intro depth t
  rw [preOrder_append, anchors_append, List.count_append, List.count_append]
  exact Nat.add_le_add (h depth t) (h' depth t)

theorem type (t : TypeName) (here : Location) : Anchors [.type t here] [] := by
  intro depth u
  simp [primary, secondary, successor]

/-- A node takes its own `anchor` and those of the nodes in its slots. -/
theorem node {n : Node} (hn : n.isType = false) {ts us vs ws : List Token}
    (hp : Anchors n.primary ts) (hs : Anchors n.secondary us) (hu : Anchors n.successor vs)
    (h : ∀ t, (n.anchor :: (ts ++ (us ++ vs))).count t ≤ ws.count t) : Anchors [n] ws := by
  intro depth t
  have hp := hp (depth + 1) t
  have hs := hs (depth + 1) t
  have hu := hu depth t
  have h := h t
  rw [preOrder_cons, anchors_cons hn]
  simp only [anchors_append, preOrder_nil, anchors_nil, List.count_cons, List.count_append,
    List.count_nil] at h ⊢
  omega

/-- A node without a successor takes the token that its phrase begins with as its `anchor`. -/
theorem leading {n : Node} {x : Placed} {s : Phrase} (hn : n.isType = false)
    (hx : n.anchor = x.token) (hsuccessor : n.successor = []) {ts us : List Token}
    (hp : Anchors n.primary ts) (hs : Anchors n.secondary us)
    (h : ∀ t, (ts ++ us).count t ≤ (tokens s).count t) : Anchors [n] (tokens (x :: s)) := by
  have hu : Anchors n.successor [] := by
    rw [hsuccessor]
    exact .nil []
  refine .node hn hp hs hu ?_
  intro t
  have h := h t
  simp only [tokens_cons, hx, List.count_cons, List.count_append, List.count_nil] at h ⊢
  omega

end Anchors

theorem anchors_expr {layer : Layer} {depth : Nat} {s : Phrase} {e : Expr}
    (h : IsExpr layer depth s e) (hs : LexemesWellFormed s) : Anchors [expr e] (tokens s) := by
  induction h with
  | ofTerm _ ih => exact ih hs
  | ofFactor _ ih => exact ih hs
  | sum _ _ _ ihl ihr | product _ _ _ ihl ihr =>
      simp only [lexemesWellFormed_append, lexemesWellFormed_cons] at hs
      refine .node rfl (ihl hs.1) (ihr hs.2.2) (.nil []) ?_
      intro t
      simp only [tokens_append, tokens_cons, List.count_append, List.count_cons, List.count_nil,
        anchor, lexeme, location, Expr.location]
      omega
  | @number depth value here =>
      simp only [lexemesWellFormed_cons, Lexeme.WellFormed] at hs
      obtain ⟨⟨v, -, rfl⟩, -⟩ := hs
      have hanchor : (expr (.ofValue v here)).anchor = ⟨.number v, here⟩ := by
        have hvalue : Nat.ofDigitChars 10 (toString v).toList 0 = v := by simp
        show (⟨.number (Nat.ofDigitChars 10 (toString v).toList 0), here⟩ : Token) = _
        rw [hvalue]
      exact .leading rfl hanchor rfl (.nil []) (.nil []) (by simp)
  | id => exact .leading rfl rfl rfl (.nil []) (.nil []) (by simp)
  | parens _ _ _ ih =>
      -- Parentheses leave no node, so the phrase only has two tokens more.
      simp only [List.cons_append, lexemesWellFormed_append, lexemesWellFormed_cons] at hs
      intro d t
      have he := ih hs.2.1 d t
      simp only [List.cons_append, tokens_append, tokens_cons, List.count_append, List.count_cons]
      omega

mutual

theorem anchors_statement {depth : Nat} {s : Phrase} {st : Statement} :
    IsStatement depth s st → LexemesWellFormed s → Anchors [statement st] (tokens s)
  | .declaration _ _ => by
      intro hs
      refine .leading rfl rfl rfl (.type _ _) (.nil []) ?_
      simp
  | .initialized _ _ _ he => by
      intro hs
      simp only [lexemesWellFormed_append, lexemesWellFormed_cons] at hs
      refine .leading rfl rfl rfl (.type _ _) (anchors_expr he hs.2.2.2.1) ?_
      intro t
      simp only [tokens_append, tokens_cons, List.count_append, List.count_cons, List.count_nil]
      omega
  | .assignment _ _ he => by
      intro hs
      simp only [lexemesWellFormed_append, lexemesWellFormed_cons] at hs
      refine .leading rfl rfl rfl (.nil []) (anchors_expr he hs.2.2.1) ?_
      intro t
      simp only [tokens_append, tokens_cons, List.count_append, List.count_cons, List.count_nil]
      omega
  | .ifThen _ _ he hbody => by
      intro hs
      simp only [lexemesWellFormed_append, lexemesWellFormed_cons] at hs
      have hblock := anchors_block hbody hs.2.2.2.2
      refine .leading rfl rfl rfl (anchors_expr he hs.2.2.1) hblock ?_
      intro t
      simp only [tokens_append, tokens_cons, List.count_append, List.count_cons]
      omega
  | @IsStatement.ifElse _ _ _ _ _ _ _ elseHere _ _ _ he hbody hother => by
      intro hs
      simp only [lexemesWellFormed_append, lexemesWellFormed_cons] at hs
      have hthen := anchors_block hbody hs.2.2.2.2.1
      have helse := anchors_block hother hs.2.2.2.2.2.2
      have hbranches : Anchors [ifBody _ _ elseHere]
          (⟨.keyword .elseWord, elseHere⟩ :: (tokens _ ++ (tokens _ ++ []))) :=
        .node rfl hthen helse (.nil []) fun t => Nat.le_refl _
      refine .leading rfl rfl rfl (anchors_expr he hs.2.2.1) hbranches ?_
      intro t
      simp only [tokens_append, tokens_cons, List.count_append, List.count_cons, List.count_nil]
      omega
  | .whileLoop _ _ he hbody => by
      intro hs
      simp only [lexemesWellFormed_append, lexemesWellFormed_cons] at hs
      have hblock := anchors_block hbody hs.2.2.2.2
      refine .leading rfl rfl rfl (anchors_expr he hs.2.2.1) hblock ?_
      intro t
      simp only [tokens_append, tokens_cons, List.count_append, List.count_cons]
      omega
  | .returnNone _ => by
      intro hs
      refine .leading rfl rfl rfl (.nil []) (.nil []) ?_
      simp
  | .returnSome _ he => by
      intro hs
      simp only [lexemesWellFormed_append, lexemesWellFormed_cons] at hs
      refine .leading rfl rfl rfl (.nil []) (anchors_expr he hs.2.1) ?_
      intro t
      simp only [tokens_append, tokens_cons, List.count_append, List.count_cons, List.count_nil]
      omega

theorem anchors_statements {depth : Nat} {s : Phrase} {ss : List Statement} :
    IsStatements depth s ss → LexemesWellFormed s → Anchors (ss.map statement) (tokens s)
  | .one h => anchors_statement h
  | .more h hlast => by
      intro hs
      rw [lexemesWellFormed_append] at hs
      rw [List.map_append, tokens_append]
      exact (anchors_statements h hs.1).append (anchors_statement hlast hs.2)

theorem anchors_block {depth : Nat} {s : Phrase} {ss : List Statement} :
    IsBlock depth s ss → LexemesWellFormed s → Anchors (ss.map statement) (tokens s)
  | .braces _ _ h => by
      intro hs
      simp only [lexemesWellFormed_append, lexemesWellFormed_cons] at hs
      have hinner := anchors_statements h hs.2.1
      intro d t
      have hle := hinner d t
      simp only [tokens_append, tokens_cons, List.count_append, List.count_cons]
      omega

end

theorem anchors_params {s : Phrase} {ps : List Param} (h : IsParams s ps) :
    Anchors (ps.map param) (tokens s) := by
  have hparam : ∀ {u p}, IsParam u p → Anchors [param p] (tokens u) := by
    rintro u p ⟨⟩
    exact .leading rfl rfl rfl (.type _ _) (.nil []) (by simp)
  induction h with
  | none => exact .nil []
  | one hp => exact hparam hp
  | more comma _ _ hp ih =>
      have hboth := ih.append (hparam hp)
      intro d t
      have hle := hboth d t
      rw [List.map_append, List.map_cons, List.map_nil]
      simp only [tokens_append, tokens_cons, List.count_append, List.count_cons] at hle ⊢
      omega

theorem anchors_function {s : Phrase} {f : Function} (h : IsFunction IsParams s f)
    (hs : LexemesWellFormed s) : Anchors [function f] (tokens s) := by
  obtain ⟨_, hheader, hbody⟩ := h
  obtain @⟨_, _, _, _, _, _, _, _, _, hparams⟩ := hheader
  simp only [lexemesWellFormed_append] at hs
  refine .node rfl (.type _ _) (anchors_params hparams) (anchors_statements hbody hs.2.1) ?_
  intro t
  simp only [tokens_append, tokens_cons, List.count_append, List.count_cons, List.count_nil,
    anchor, lexeme, location, Header.function]
  omega

/-- **No token of a program is taken by two nodes of its tree**: the `anchors` of the nodes are
among the tokens, each as often. -/
theorem subperm_anchors {s : Phrase} {p : Program} (h : IsProgram s p)
    (hs : LexemesWellFormed s) : (anchors p.nodes).Subperm (tokens s) := by
  have hfunctions : ∀ {u fs}, IsFunctions IsParams u fs → LexemesWellFormed u →
      Anchors (fs.map function) (tokens u) := by
    intro u fs hfs hu
    induction hfs with
    | one hf => exact anchors_function hf hu
    | more _ hf ih =>
        rw [lexemesWellFormed_append] at hu
        rw [List.map_append, tokens_append]
        exact (ih hu.1).append (anchors_function hf hu.2)
  rw [Program.nodes_eq]
  exact List.subperm_ext_iff.2 fun t _ => hfunctions h hs 0 t

end Grammar

/-! ### Type nodes -/

theorem Program.isType_of_mem_topLevel (p : Program) : ∀ n ∈ p.topLevel, n.isType = false := by
  intro n hn
  obtain ⟨f, -, rfl⟩ := List.mem_map.1 hn
  rfl

namespace Node

theorem kind_of_isType {n : Node} (h : n.isType = true) : n.kind = .type := by
  cases n with
  | type => rfl
  | _ => cases h

/-- The type node of a node, if it owns one. -/
def typeNodes (n : Node) : List Node := n.primary.filter isType

/-- One of the `typeNodes` stands where its owner stands. -/
theorem anchor_of_mem_typeNodes {n m : Node} (h : m ∈ n.typeNodes) : m.anchor = n.anchor := by
  obtain ⟨hm, htype⟩ := List.mem_filter.1 h
  unfold primary at hm
  split at hm <;> grind [isType, anchor, lexeme, location, Statement.location]

/-- A node owns a type node and nothing else in its first slot, or no type node. -/
theorem primary_cases (n : Node) :
    (∃ t here, n.primary = [type t here]) ∨ ∀ m ∈ n.primary, m.isType = false := by
  unfold primary
  split <;> grind [isType]

theorem typeNodes_of_primary_eq {n : Node} {t : TypeName} {here : Location}
    (h : n.primary = [type t here]) : n.typeNodes = [type t here] := by
  rw [typeNodes, h]
  rfl

theorem typeNodes_eq_nil {n : Node} (h : ∀ m ∈ n.primary, m.isType = false) :
    n.typeNodes = [] := by
  rw [typeNodes, List.filter_eq_nil_iff]
  intro m hm
  simp [h m hm]

theorem isType_of_mem_secondary {n m : Node} (h : m ∈ n.secondary) : m.isType = false := by
  unfold secondary at h
  split at h <;> grind [isType, ofExpr?]

theorem isType_of_mem_successor {n m : Node} (h : m ∈ n.successor) : m.isType = false := by
  unfold successor at h
  split at h <;> grind [isType]

/-- In `Node.preOrder` the `typeNodes` stand right behind their owners. -/
theorem preOrder_eq_flatMap (depth : Nat) (ns : List Node) (h : ∀ n ∈ ns, n.isType = false) :
    preOrder depth ns = ((preOrder depth ns).filter fun x => !x.1.isType).flatMap fun x =>
      x :: x.1.typeNodes.map fun m => (m, x.2 + 1) := by
  fun_induction preOrder depth ns with
  | case1 => rfl
  | case2 depth n ns ihp ihs ihu ihr =>
      rw [List.forall_mem_cons] at h
      have hs := ihs fun m => isType_of_mem_secondary
      have hu := ihu fun m => isType_of_mem_successor
      have hr := ihr h.2
      rcases n.primary_cases with ⟨t, here, hp⟩ | hp
      · -- The type node is all of the slot, and has nothing below it.
        have hchild : preOrder (depth + 1) [type t here] = [(type t here, depth + 1)] := by
          simp [primary, secondary, successor]
        have htypes := typeNodes_of_primary_eq hp
        rw [hp, hchild, List.singleton_append, List.filter_cons_of_pos (by simp [h.1]),
          List.filter_cons_of_neg (by simp), List.filter_append, List.filter_append,
          List.flatMap_cons, List.flatMap_append, List.flatMap_append, ← hs, ← hu, ← hr, htypes]
        rfl
      · have hp' := ihp hp
        have htypes := typeNodes_eq_nil hp
        rw [List.filter_cons_of_pos (by simp [h.1]), List.filter_append, List.filter_append,
          List.filter_append, List.flatMap_cons, List.flatMap_append, List.flatMap_append,
          List.flatMap_append, ← hp', ← hs, ← hu, ← hr, htypes]
        rfl

/-- Every node of `Node.preOrder` stands at the `anchor` of a node that is no type. -/
theorem anchor_mem_anchors {depth : Nat} {ns : List Node} (h : ∀ n ∈ ns, n.isType = false) :
    ∀ x ∈ preOrder depth ns, x.1.anchor ∈ anchors (preOrder depth ns) := by
  intro x hx
  rw [preOrder_eq_flatMap depth ns h, List.mem_flatMap] at hx
  obtain ⟨owner, howner, hx⟩ := hx
  have hmem : owner.1.anchor ∈ anchors (preOrder depth ns) := List.mem_map_of_mem howner
  rcases List.mem_cons.1 hx with rfl | hx
  · exact hmem
  · obtain ⟨m, hm, rfl⟩ := List.mem_map.1 hx
    rwa [anchor_of_mem_typeNodes hm]

/-- If the `anchors` of a traversal stand at different places, then so do any two of its nodes
but a type node and its owner. -/
theorem pairwise_preOrder {depth : Nat} {ns : List Node} (h : ∀ n ∈ ns, n.isType = false)
    (hnodup : ((anchors (preOrder depth ns)).map Token.location).Nodup) :
    (preOrder depth ns).Pairwise fun x y =>
      x.1.location = y.1.location → y.1 ∈ x.1.typeNodes := by
  have howners : ((preOrder depth ns).filter fun x => !x.1.isType).Pairwise fun x y =>
      x.1.location ≠ y.1.location := by
    rw [anchors, List.map_map] at hnodup
    exact List.pairwise_map.1 hnodup
  -- A node and the type node behind it are at one location.
  have hgroup : ∀ x y : Node × Nat, y ∈ x :: x.1.typeNodes.map (fun m => (m, x.2 + 1)) →
      y.1.location = x.1.location := by
    intro x y hy
    rcases List.mem_cons.1 hy with rfl | hy
    · rfl
    · obtain ⟨m, hm, rfl⟩ := List.mem_map.1 hy
      exact congrArg Token.location (anchor_of_mem_typeNodes hm)
  rw [preOrder_eq_flatMap depth ns h, List.pairwise_flatMap]
  constructor
  · intro x _
    rcases x.1.primary_cases with ⟨t, here, hp⟩ | hp
    · rw [typeNodes_of_primary_eq hp]
      simp [typeNodes_of_primary_eq hp]
    · rw [typeNodes_eq_nil hp]
      simp
  · refine howners.imp ?_
    intro x y hne a ha b hb heq
    rw [hgroup x a ha, hgroup y b hb] at heq
    exact absurd heq hne

end Node

end SyntaxExplorer
