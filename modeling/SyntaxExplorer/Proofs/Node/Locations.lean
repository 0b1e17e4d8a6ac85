import SyntaxExplorer.Proofs.Node.Anchors
import SyntaxExplorer.Proofs.Parser.RoundTrip
import SyntaxExplorer.Proofs.Parser.Words
import SyntaxExplorer.Proofs.Text.Lines

/-!
# SyntaxExplorer.Proofs.Node.Locations

**Every node of a program that is read points at its own text**
(`pointsInto_of_parse`). A node stands at a token of its own, and a token stands in the
text where its location says, on a line that can be looked up
(`Token.Apart.exists_line`). What the line shows there is the lexeme of the token,
and the lexeme tells the kind of the node and what it is called (`Node.pointsAt`).
-/

namespace SyntaxExplorer

open Grammar Text

/-! ### Tokens and lines -/

theorem takeWhile_of_endsLine {p : Char → Bool} (hlf : p '\n' = false) (hcr : p '\r' = false)
    {more : List Char} (h : EndsLine more) (cs : List Char) :
    (cs ++ more).takeWhile p = cs.takeWhile p := by
  induction cs with
  | nil =>
      cases more with
      | nil => rfl
      | cons c more => rcases h c rfl with rfl | rfl <;> simp [hlf, hcr]
  | cons c cs ih => simp only [List.cons_append, List.takeWhile_cons, ih]

theorem prefix_of_endsLine {w cs more : List Char} (h : EndsLine more)
    (hw : ∀ c ∈ w, c ≠ '\n' ∧ c ≠ '\r') (hstart : w <+: cs ++ more) : w <+: cs := by
  induction cs generalizing w with
  | nil =>
      cases w with
      | nil => exact List.nil_prefix
      | cons c w =>
          obtain ⟨rest, rfl⟩ := hstart
          have hend := h c rfl
          have hc := hw c List.mem_cons_self
          simp [hc.1, hc.2] at hend
  | cons d cs ih =>
      cases w with
      | nil => exact List.nil_prefix
      | cons c w =>
          obtain ⟨rfl, htail⟩ := List.cons_prefix_cons.1 hstart
          have hrest : ∀ x ∈ w, x ≠ '\n' ∧ x ≠ '\r' :=
            fun x hx => hw x (List.mem_cons_of_mem c hx)
          exact List.cons_prefix_cons.2 ⟨rfl, ih hrest htail⟩

theorem Symbol.ne_of_mem_spelling (s : Symbol) :
    ∀ c ∈ s.spelling.toList, c ≠ '\n' ∧ c ≠ '\r' := by
  have hall : (s.spelling.toList.all fun c => c != '\n' && c != '\r') = true := by
    cases s <;> decide
  simpa using hall

/-- A word, a number or a symbol heads a text (`Lexeme.Heads`) on one line. -/
theorem Lexeme.heads_of_endsLine {l : Lexeme} {cs more : List Char} (hmore : EndsLine more)
    (hl : l.isWord = true ∨ ∃ s, l = .symbol s) (h : l.Heads (cs ++ more)) : l.Heads cs := by
  cases l with
  | number value =>
      rw [Heads, takeWhile_of_endsLine (by decide) (by decide) hmore] at h
      exact h
  | identifier name =>
      rw [Heads, takeWhile_of_endsLine (by decide) (by decide) hmore] at h
      exact h
  | keyword k =>
      rw [Heads, takeWhile_of_endsLine (by decide) (by decide) hmore] at h
      exact h
  | symbol s => exact prefix_of_endsLine hmore s.ne_of_mem_spelling h
  | stringLiteral | endOfFile => simp [isWord] at hl

/-- A word, a number or a symbol that heads a text (`Lexeme.Heads`) does not begin with a line
feed. -/
theorem Lexeme.exists_head {l : Lexeme} {cs : List Char} (hwell : l.WellFormed)
    (hl : l.isWord = true ∨ ∃ s, l = .symbol s) (h : l.Heads cs) :
    ∃ d ds, cs = d :: ds ∧ d ≠ '\n' := by
  rcases hl with hword | ⟨s, rfl⟩
  · obtain ⟨d, hd, hpart⟩ := Cursor.exists_wordPart_of_heads hwell hword h
    obtain ⟨ds, rfl⟩ := List.head?_eq_some_iff.1 hd
    refine ⟨d, ds, rfl, ?_⟩
    rintro rfl
    simp [isWordPart] at hpart
  · obtain ⟨rest, rfl⟩ := h
    obtain ⟨d, ds, hspelling⟩ : ∃ d ds, s.spelling.toList = d :: ds := by
      cases s <;> exact ⟨_, _, rfl⟩
    have hd := s.ne_of_mem_spelling d (by simp [hspelling])
    exact ⟨d, ds ++ rest, by rw [hspelling, List.cons_append], hd.1⟩

/-- The token stands on its line behind `before`, and `after` is what the line goes on
with. -/
theorem Token.Apart.exists_line {text : List Char} {t : Token} (h : t.Apart text)
    (hwell : t.lexeme.WellFormed) (hl : t.lexeme.isWord = true ∨ ∃ s, t.lexeme = .symbol s) :
    1 ≤ t.location.line ∧ ∃ before after,
      (lines text)[t.location.line - 1]? = some (before ++ after) ∧
      before.length + 1 = t.location.column ∧ t.lexeme.Heads after ∧
      (t.lexeme.isWord = true → ∀ c ∈ before.getLast?, isWordPart c = false) := by
  obtain ⟨pre, ⟨rest, rfl, hlocation, hheads⟩, hapart⟩ := h
  obtain ⟨d, ds, rfl, hlf⟩ := Lexeme.exists_head hwell hl hheads
  obtain ⟨before, after, more, hline, hcolumn, hbefore, hafter, hmore⟩ :=
    exists_line_at pre hlf ds
  rw [hlocation]
  refine ⟨line_le_past .start pre, before, after, hline, hcolumn, ?_, ?_⟩
  · rw [hafter] at hheads
    exact Lexeme.heads_of_endsLine hmore hl hheads
  · intro hword c hc
    -- What stands last in front of the token on its line stands last in the text.
    obtain ⟨front, rfl⟩ := List.getLast?_eq_some_iff.1 hc
    obtain ⟨early, rfl⟩ := hbefore
    rcases hapart hword with hnil | ⟨e, he, hpart⟩
    · simp at hnil
    · rw [← List.append_assoc, List.getLast?_concat] at he
      obtain rfl := Option.some.inj he
      exact hpart

/-! ### Well-formed nodes -/

namespace Node

def WellFormed : Node → Prop
  | function f => f.WellFormed
  | type .. => True
  | param p => IsName p.name
  | statement s => s.WellFormed
  | ifBody thenBranch elseBranch _ =>
    (∀ s ∈ thenBranch, s.WellFormed) ∧ ∀ s ∈ elseBranch, s.WellFormed
  | expr e => e.WellFormed

theorem wellFormed_of_mem_primary {n m : Node} (h : n.WellFormed) (hm : m ∈ n.primary) :
    m.WellFormed := by
  unfold primary at hm
  split at hm <;>
    grind [WellFormed, Function.WellFormed, Statement.WellFormed, Statement.allWellFormed_iff,
      Expr.WellFormed]

theorem wellFormed_of_mem_secondary {n m : Node} (h : n.WellFormed) (hm : m ∈ n.secondary) :
    m.WellFormed := by
  unfold secondary at hm
  split at hm <;>
    grind [WellFormed, Function.WellFormed, Statement.WellFormed, Statement.allWellFormed_iff,
      Expr.WellFormed, ofExpr?]

theorem wellFormed_of_mem_slots {n m : Node} (h : n.WellFormed) (hm : m ∈ n.slots) :
    m.WellFormed := by
  rcases List.mem_append.1 hm with hm | hm
  · exact wellFormed_of_mem_primary h hm
  · rcases List.mem_append.1 hm with hm | hm
    · exact wellFormed_of_mem_secondary h hm
    · unfold successor at hm
      split at hm <;> grind [WellFormed, Function.WellFormed]

/-! ### What a node points at -/

/-- Between the two texts begins the run `run` of characters with the property, which
goes on as far as it can. -/
structure RunsAt (p : Char → Bool) (before after run : List Char) : Prop where
  ne_nil : run ≠ []
  takeWhile_eq : after.takeWhile p = run
  begins : ∀ c ∈ before.getLast?, p c = false

/-- Between the two texts begins a whole word (`isWordPart`), which is the payload of the node. -/
def NamesWord (n : Node) (before after : List Char) : Prop :=
  ∃ w, n.payload? = some w ∧ RunsAt isWordPart before after w.toList

/-- What a `Node` points at, by its kind, when it points between the two texts. -/
def PointsAt (n : Node) (before after : List Char) : Prop :=
  match n.kind with
  | .function | .param | .declaration =>
    ∃ m, n.primary = [m] ∧ m.kind = .type ∧ m.NamesWord before after
  | .type | .assignment | .id => n.NamesWord before after
  | .ifThen | .ifElse => RunsAt isWordPart before after "if".toList
  | .ifBody => RunsAt isWordPart before after "else".toList
  | .whileLoop => RunsAt isWordPart before after "while".toList
  | .returnValue => RunsAt isWordPart before after "return".toList
  | .binaryOp => ∃ c more, after = c :: more ∧ n.payload? = some (String.singleton c)
  | .number =>
    ∃ digits, RunsAt Char.isDigit before after digits ∧
      n.payload? = some (toString (Nat.ofDigitChars 10 digits 0))

variable {before after : List Char}

theorem runsAt_of_keyword {k : Keyword} (h : (Lexeme.keyword k).Heads after)
    (hbefore : ∀ c ∈ before.getLast?, isWordPart c = false) :
    RunsAt isWordPart before after k.spelling.toList := by
  refine ⟨?_, h, hbefore⟩
  cases k <;> decide

theorem namesWord_type {t : TypeName} (here : Location)
    (h : (Lexeme.keyword t.word).Heads after)
    (hbefore : ∀ c ∈ before.getLast?, isWordPart c = false) :
    (type t here).NamesWord before after := by
  refine ⟨t.word.spelling, ?_, runsAt_of_keyword h hbefore⟩
  cases t <;> rfl

theorem runsAt_of_name {name : String} (hname : IsName name)
    (h : (Lexeme.identifier name).Heads after)
    (hbefore : ∀ c ∈ before.getLast?, isWordPart c = false) :
    RunsAt isWordPart before after name.toList := by
  obtain ⟨⟨c, cs, hchars, -, -⟩, -⟩ := hname
  exact ⟨by simp [hchars], h, hbefore⟩

/-- The `Node.lexeme` of a node is what it `PointsAt`. -/
theorem pointsAt {n : Node} (hwell : n.WellFormed) (h : n.lexeme.Heads after)
    (hbefore : n.lexeme.isWord = true → ∀ c ∈ before.getLast?, isWordPart c = false) :
    n.PointsAt before after := by
  cases n with
  | function f => exact ⟨_, rfl, rfl, namesWord_type _ h (hbefore rfl)⟩
  | param p => exact ⟨_, rfl, rfl, namesWord_type _ h (hbefore rfl)⟩
  | type t here => exact namesWord_type here h (hbefore rfl)
  | ifBody thenBranch elseBranch here => exact runsAt_of_keyword h (hbefore rfl)
  | statement s =>
      cases s with
      | declaration name t initializer here =>
          exact ⟨_, rfl, rfl, namesWord_type here h (hbefore rfl)⟩
      | assignment target value here =>
          exact ⟨target, rfl, runsAt_of_name hwell.1 h (hbefore rfl)⟩
      | ifThen | ifElse | whileLoop | returnValue => exact runsAt_of_keyword h (hbefore rfl)
  | expr e =>
      cases e with
      | binary op left right here =>
          obtain ⟨more, rfl⟩ := h
          cases op <;> exact ⟨_, more, rfl, rfl⟩
      | id name here => exact ⟨name, rfl, runsAt_of_name hwell h (hbefore rfl)⟩
      | number text here =>
          obtain ⟨hne, hvalue⟩ := h
          obtain ⟨-, htext⟩ := (isNumeral_iff text).1 hwell
          refine ⟨_, ⟨hne, rfl, ?_⟩, ?_⟩
          · -- A digit is a part of a word, and none stands in front.
            intro c hc
            have hpart := hbefore rfl c hc
            simp only [isWordPart, Char.isAlphanum, Bool.or_eq_false_iff] at hpart
            exact hpart.1.2
          · rw [← Int.ofNat.inj hvalue, ← htext]
            rfl

/-- The node is located on a line of the text, and `PointsAt` what stands there. -/
def PointsInto (n : Node) (text : String) : Prop :=
  1 ≤ n.location.line ∧ n.location.line ≤ (lines text.toList).length ∧
    ∃ before after, (lines text.toList)[n.location.line - 1]? = some (before ++ after) ∧
      before.length + 1 = n.location.column ∧ n.PointsAt before after

theorem lexeme_cases (n : Node) :
    n.lexeme.isWord = true ∨ ∃ s, n.lexeme = .symbol s := by
  unfold lexeme
  split <;> first | exact .inl rfl | exact .inr ⟨_, rfl⟩

end Node

open Node

/-! ### The nodes of a program that is read -/

/-- The tokens of `TokenSource.drain` stand at different places. -/
theorem nodup_locations_of_drain {text : String} {s : Phrase} {rest : List Token}
    {error : Option ScanError}
    (h : TokenSource.drain (Cursor.ofText text) = ⟨tokens s ++ rest, error⟩) :
    ((tokens s).map Token.location).Nodup := by
  have hbefore := Cursor.pairwise_before_drain (Cursor.ofText text)
  rw [h, List.map_append, List.pairwise_append] at hbefore
  exact hbefore.1.imp Location.Before.ne

section Parsed

variable {text : String} {p : Program} (h : (parse (Cursor.ofText text)).1 = .ok p)

include h

theorem wellFormed_of_mem_nodes : ∀ x ∈ p.nodes, x.1.WellFormed := by
  rw [Program.nodes_eq]
  refine forall_mem_preOrder (fun n hn m hm => wellFormed_of_mem_slots hn hm) 0 _ ?_
  intro n hn
  obtain ⟨f, hf, rfl⟩ := List.mem_map.1 hn
  exact (wellFormed_of_parse h).1.2 f hf

/-- The nodes stand at tokens of the text that do not begin inside a word (`Token.Apart`). The
`anchors` of the nodes that are no types are different tokens, at different places. -/
theorem exists_tokens_of_parse :
    ∃ ts last, TokenSource.tokens (Cursor.ofText text) = .ok (ts ++ [last]) ∧
      (∀ t ∈ ts, t.Apart text.toList ∧ t.lexeme.WellFormed) ∧
      (∀ x ∈ p.nodes, x.1.anchor ∈ ts) ∧
      ((anchors p.nodes).map Token.location).Nodup := by
  obtain ⟨s, last, hdrain, -, hsentence, hnest⟩ := parse_eq_ok_iff_drain.1 h
  have hlexemes := lexemesWellFormed_of_drain hdrain
  have hrun := Progress.run_of_isProgram hsentence hnest
  obtain ⟨l, hperm, hsublist⟩ := subperm_anchors hsentence hlexemes
  refine ⟨tokens s, last, ?_, ?_, ?_, ?_⟩
  · rw [TokenSource.tokens, hdrain]
  · intro t ht
    obtain ⟨x, hx, rfl⟩ := List.mem_map.1 ht
    exact ⟨apart_of_run hrun hdrain _ ht, hlexemes x hx⟩
  · intro x hx
    refine hsublist.subset (hperm.mem_iff.2 ?_)
    rw [Program.nodes_eq] at hx ⊢
    exact anchor_mem_anchors p.isType_of_mem_topLevel x hx
  · have hnodup := (nodup_locations_of_drain hdrain).sublist (hsublist.map Token.location)
    exact (hperm.map Token.location).nodup_iff.1 hnodup

/-- **Every node of a program that `parse` reads points at its own text.** It stands at a
token, on a line of the text, and from its column on the line reads as the kind and the payload
of the node say (`Node.PointsInto`). No two nodes stand at the same place, but a type node
stands where its owner does (`Node.typeNodes`). -/
theorem pointsInto_of_parse :
    (∃ ts, TokenSource.tokens (Cursor.ofText text) = .ok ts ∧
      ∀ x ∈ p.nodes, ∃ t ∈ ts, t.location = x.1.location) ∧
    (∀ x ∈ p.nodes, x.1.PointsInto text) ∧
    p.nodes.Pairwise fun x y =>
      x.1.location = y.1.location → y.1.kind = .type ∧ y.1 ∈ x.1.primary := by
  obtain ⟨ts, last, htokens, happart, hanchor, hnodup⟩ := exists_tokens_of_parse h
  refine ⟨⟨_, htokens, ?_⟩, ?_, ?_⟩
  · intro x hx
    exact ⟨x.1.anchor, List.mem_append_left _ (hanchor x hx), rfl⟩
  · intro x hx
    -- The line of the token of the node is the line of the node.
    obtain ⟨hapart, hwell⟩ := happart _ (hanchor x hx)
    obtain ⟨hfirst, before, after, hline, hcolumn, hheads, hbefore⟩ :=
      hapart.exists_line hwell x.1.lexeme_cases
    obtain ⟨hlt, -⟩ := List.getElem?_eq_some_iff.1 hline
    refine ⟨hfirst, Nat.le_of_pred_lt hlt, before, after, hline, hcolumn, ?_⟩
    exact pointsAt (wellFormed_of_mem_nodes h x hx) hheads hbefore
  · rw [Program.nodes_eq] at hnodup ⊢
    refine (pairwise_preOrder p.isType_of_mem_topLevel hnodup).imp ?_
    intro x y htype hsame
    obtain ⟨hy, hkind⟩ := List.mem_filter.1 (htype hsame)
    exact ⟨kind_of_isType hkind, hy⟩

end Parsed

/-- A function behind a comment of two lines, with a carriage return and a tab. -/
def commentedText : String :=
  "/* ü\n*/ int f(char c) \x7b\r\n\treturn c * 10; // ten\n\x7d"

def commentedProgram : Program :=
  ⟨[⟨"f", .int, [⟨"c", .char, ⟨2, 10⟩⟩],
    [.returnValue (some (.binary .mul (.id "c" ⟨3, 9⟩) (.number "10" ⟨3, 13⟩) ⟨3, 11⟩)) ⟨3, 2⟩],
    ⟨2, 4⟩⟩]⟩

/-- All eight nodes point at their text: the product at the star on the third line, and
the function, with its type, at `int` behind the comment. -/
theorem pointsInto_commentedProgram :
    (parse (Cursor.ofText commentedText)).1 = .ok commentedProgram ∧
      commentedProgram.nodes.length = 8 ∧
      (∀ x ∈ commentedProgram.nodes, x.1.PointsInto commentedText) ∧
      commentedProgram.nodes.Pairwise fun x y =>
        x.1.location = y.1.location → y.1.kind = .type ∧ y.1 ∈ x.1.primary := by
  have hoption : (parse (Cursor.ofText commentedText)).1.toOption = some commentedProgram := by
    decide +kernel
  have hparse : (parse (Cursor.ofText commentedText)).1 = .ok commentedProgram := by
    cases hresult : (parse (Cursor.ofText commentedText)).1 with
    | error e => simp [hresult, Except.toOption] at hoption
    | ok q =>
        rw [hresult] at hoption
        rw [Option.some.inj hoption]
  obtain ⟨-, hpoints, hpairwise⟩ := pointsInto_of_parse hparse
  exact ⟨hparse, by decide +kernel, hpoints, hpairwise⟩

end SyntaxExplorer
