import SyntaxExplorer.Proofs.Node.Indented
import SyntaxExplorer.Proofs.Node.Locations
import SyntaxExplorer.Proofs.Program.Shape
import SyntaxExplorer.Proofs.Program.Unparse
import SyntaxExplorer.Proofs.Text.Readback

/-!
# SyntaxExplorer.Proofs.Program.PrefixForm

**The prefix form of an expression can be read back.** A leaf is a run of letters, digits and
underscores, and everything that the form of an operation puts behind an operand ends such a
run. So the form determines where each operand ends, in whatever text it stands
(`Expr.prefixText_append_inj`), and with it the expression, its locations apart. Only a leaf
can be the beginning of another form, which is a leaf then.
-/

namespace SyntaxExplorer

open Text Cursor

/-! ### Leaves -/

/-- A word as a text can have it, be it reserved or not. -/
def IsWord (word : String) : Prop :=
  ∃ c cs, word.toList = c :: cs ∧ isWordStart c = true ∧ ∀ d ∈ cs, isWordPart d = true

/-- No `Operator.symbol` can be a part of a word. -/
theorem Operator.toList_symbol (op : Operator) :
    ∃ c, op.symbol.toList = [c] ∧ isWordPart c = false := by
  cases op <;> exact ⟨_, rfl, rfl⟩

namespace Expr

/-- The names are words, and the texts of numbers are decimal forms, whatever the number. -/
def Readable : Expr → Prop
  | number text _ => ∃ value : Nat, text = toString value
  | id name _ => IsWord name
  | binary _ left right _ => left.Readable ∧ right.Readable

theorem WellFormed.readable {e : Expr} (h : e.WellFormed) : e.Readable := by
  induction e with
  | number text here =>
      obtain ⟨value, -, rfl⟩ := h
      exact ⟨value, rfl⟩
  | id name here => exact h.1
  | binary op left right here ihl ihr => exact ⟨ihl h.1, ihr h.2⟩

/-! ### The characters of a prefix form -/

theorem prefixPieces_append (e : Expr) (after : List String) :
    e.prefixPieces after = e.prefixPieces [] ++ after := by
  induction e generalizing after with
  | number text here => rfl
  | id name here => rfl
  | binary op left right here ihl ihr =>
      simp only [prefixPieces]
      rw [ihl, ihr, ihl (", " :: _), ihr [")"]]
      simp

/-- The `prefixText` of an operation puts `(`, `,` and `)` around and between those of its
operands. -/
theorem toList_prefixText_binary (op : Operator) (left right : Expr) (here : Location) :
    (binary op left right here).prefixText.toList =
      op.symbol.toList ++ '(' :: (left.prefixText.toList ++
        ',' :: ' ' :: (right.prefixText.toList ++ [')'])) := by
  have hpieces : (binary op left right here).prefixPieces [] =
      op.symbol :: "(" :: (left.prefixPieces [] ++ ", " :: (right.prefixPieces [] ++ [")"])) := by
    rw [prefixPieces, prefixPieces_append left, prefixPieces_append right]
  have hopen : "(".toList = ['('] := rfl
  have hcomma : ", ".toList = [',', ' '] := rfl
  have hclose : ")".toList = [')'] := rfl
  simp [prefixText, hpieces, String.toList_join, hopen, hcomma, hclose]

/-- The `prefixText` of a leaf is its text. -/
theorem prefixText_number (text : String) (here : Location) :
    (number text here).prefixText = text := by
  simp [prefixText, prefixPieces, String.join]

theorem prefixText_id (name : String) (here : Location) :
    (id name here).prefixText = name := by
  simp [prefixText, prefixPieces, String.join]

/-- The `prefixText` of a leaf is a run of `isWordPart` characters. -/
theorem isWordPart_of_leaf {e : Expr} (h : e.Readable) (hleaf : e.isBinary = false) :
    ∀ c ∈ e.prefixText.toList, isWordPart c = true := by
  cases e with
  | number text here =>
      obtain ⟨value, rfl⟩ := h
      rw [prefixText_number]
      exact fun c hc => isWordPart_of_isDigit (isDigit_of_mem_toString hc)
  | id name here =>
      obtain ⟨c, cs, hname, hc, hcs⟩ := h
      rw [prefixText_id, hname]
      exact List.forall_mem_cons.2 ⟨isWordPart_of_isWordStart hc, hcs⟩
  | binary op left right here => cases hleaf

/-- The first character of a `prefixText` tells a leaf from an operation: only that of a leaf
`isWordPart`. -/
theorem exists_head_prefixText {e : Expr} (h : e.Readable) :
    ∃ c cs, e.prefixText.toList = c :: cs ∧ isWordPart c = !e.isBinary := by
  cases e with
  | number text here =>
      obtain ⟨value, rfl⟩ := h
      rw [prefixText_number]
      cases hdigits : (toString value).toList with
      | nil => simp at hdigits
      | cons c cs =>
          have hmem : c ∈ (toString value).toList := by simp only [hdigits, List.mem_cons_self]
          exact ⟨c, cs, rfl, isWordPart_of_isDigit (isDigit_of_mem_toString hmem)⟩
  | id name here =>
      obtain ⟨c, cs, hname, hc, -⟩ := h
      exact ⟨c, cs, by rw [prefixText_id, hname], isWordPart_of_isWordStart hc⟩
  | binary op left right here =>
      obtain ⟨c, hsymbol, hc⟩ := op.toList_symbol
      exact ⟨c, _, by rw [toList_prefixText_binary, hsymbol]; rfl, hc⟩

/-- Two `Readable` leaves with one `prefixText` are equal: a number and a name are not shown
alike. -/
theorem unlocated_eq_of_leaves {e e' : Expr} (he : e.Readable) (he' : e'.Readable)
    (hleaf : e.isBinary = false) (hleaf' : e'.isBinary = false)
    (h : e.prefixText = e'.prefixText) : e.unlocated = e'.unlocated := by
  have hnumber : ∀ {value : Nat} {name : String}, IsWord name → toString value ≠ name := by
    rintro value name ⟨c, cs, hname, hc, -⟩ rfl
    have hdigit := isDigit_of_isWordStart hc
    have hmem : c ∈ (toString value).toList := by simp only [hname, List.mem_cons_self]
    simp [isDigit_of_mem_toString hmem] at hdigit
  cases e with
  | number text here =>
      rw [prefixText_number] at h
      obtain ⟨value, rfl⟩ := he
      cases e' with
      | number text' here' =>
          rw [prefixText_number] at h
          rw [unlocated, unlocated, h]
      | id name here' =>
          rw [prefixText_id] at h
          exact absurd h (hnumber he')
      | binary op left right here' => cases hleaf'
  | id name here =>
      rw [prefixText_id] at h
      cases e' with
      | number text' here' =>
          rw [prefixText_number] at h
          obtain ⟨value, rfl⟩ := he'
          exact absurd h.symm (hnumber he)
      | id name' here' =>
          rw [prefixText_id] at h
          rw [unlocated, unlocated, h]
      | binary op left right here' => cases hleaf'
  | binary op left right here => cases hleaf

/-! ### Reading a form back -/

/-- A form is over in front of this: the one of an operation ends with its parenthesis, and a
leaf ends where no word goes on. -/
def EndsBefore (e : Expr) (rest : List Char) : Prop :=
  e.isBinary = false → ∀ c ∈ rest.head?, isWordPart c = false

theorem endsBefore_nil (e : Expr) : e.EndsBefore [] := by
  simp [EndsBefore]

/-- What stands behind an operand is not `isWordPart`, and so every expression `EndsBefore` it. -/
theorem endsBefore_cons {e : Expr} {c : Char} {rest : List Char} (hc : isWordPart c = false) :
    e.EndsBefore (c :: rest) := by
  simp [EndsBefore, hc]

/-- Two `prefixText`s that begin in the same way are those of two leaves or of two operations. -/
theorem isBinary_eq_of_append {e e' : Expr} {rest rest' : List Char} (he : e.Readable)
    (he' : e'.Readable) (h : e.prefixText.toList ++ rest = e'.prefixText.toList ++ rest') :
    e.isBinary = e'.isBinary := by
  obtain ⟨c, cs, hhead, hc⟩ := exists_head_prefixText he
  obtain ⟨c', cs', hhead', hc'⟩ := exists_head_prefixText he'
  rw [hhead, hhead', List.cons_append, List.cons_append] at h
  rw [(List.cons.inj h).1, hc'] at hc
  exact (Bool.not_inj hc).symm

theorem leaf_append_inj {e e' : Expr} {rest rest' : List Char} (he : e.Readable)
    (he' : e'.Readable) (hleaf : e.isBinary = false) (hleaf' : e'.isBinary = false)
    (hrest : e.EndsBefore rest) (hrest' : e'.EndsBefore rest')
    (h : e.prefixText.toList ++ rest = e'.prefixText.toList ++ rest') :
    e.unlocated = e'.unlocated ∧ rest = rest' := by
  obtain ⟨htext, hmore⟩ := run_inj (isWordPart_of_leaf he hleaf) (isWordPart_of_leaf he' hleaf')
    (hrest hleaf) (hrest' hleaf') h
  exact ⟨unlocated_eq_of_leaves he he' hleaf hleaf' (String.toList_inj.1 htext), hmore⟩

/-- **A `prefixText` determines the expression and where it ends**, whatever follows, so long
as the expression `EndsBefore` it. -/
theorem prefixText_append_inj {e e' : Expr} {rest rest' : List Char} (he : e.Readable)
    (he' : e'.Readable) (hrest : e.EndsBefore rest) (hrest' : e'.EndsBefore rest')
    (h : e.prefixText.toList ++ rest = e'.prefixText.toList ++ rest') :
    e.unlocated = e'.unlocated ∧ rest = rest' := by
  have hbinary := isBinary_eq_of_append he he' h
  induction e generalizing e' rest rest' with
  | number text here => exact leaf_append_inj he he' rfl hbinary.symm hrest hrest' h
  | id name here => exact leaf_append_inj he he' rfl hbinary.symm hrest hrest' h
  | binary op left right here ihl ihr =>
      cases e' with
      | number text' here' => cases hbinary
      | id name' here' => cases hbinary
      | binary op' left' right' here' =>
          obtain ⟨c, hsymbol, -⟩ := op.toList_symbol
          obtain ⟨c', hsymbol', -⟩ := op'.toList_symbol
          rw [toList_prefixText_binary, toList_prefixText_binary, hsymbol, hsymbol'] at h
          simp only [List.append_assoc, List.cons_append, List.nil_append, List.cons.injEq,
            true_and] at h
          obtain ⟨rfl, hoperands⟩ := h
          obtain rfl : op = op' :=
            Operator.symbol_inj (String.toList_inj.1 (hsymbol.trans hsymbol'.symm))
          -- The comma ends the form of the left operand, the parenthesis that of the right one.
          obtain ⟨hleft, hright⟩ := ihl he.1 he'.1 (endsBefore_cons rfl) (endsBefore_cons rfl)
            hoperands (isBinary_eq_of_append he.1 he'.1 hoperands)
          simp only [List.cons.injEq, true_and] at hright
          obtain ⟨hright, hend⟩ := ihr he.2 he'.2 (endsBefore_cons rfl) (endsBefore_cons rfl)
            hright (isBinary_eq_of_append he.2 he'.2 hright)
          rw [unlocated, unlocated, hleft, hright]
          exact ⟨rfl, (List.cons.inj hend).2⟩

/-- The locations of an expression are not shown: `prefixPieces` reads nothing that `unlocated`
removes. -/
theorem prefixPieces_unlocated (e : Expr) (after : List String) :
    e.unlocated.prefixPieces after = e.prefixPieces after := by
  induction e generalizing after with
  | number text here => rfl
  | id name here => rfl
  | binary op left right here ihl ihr => simp only [unlocated, prefixPieces, ihl, ihr]

theorem prefixText_unlocated (e : Expr) : e.unlocated.prefixText = e.prefixText := by
  rw [prefixText, prefixPieces_unlocated, prefixText]

/-- **The prefix form of an expression is unambiguous.** Two `Readable` expressions have one
`prefixText` if they differ in their locations at most, and only then. No `prefixText` is the
beginning of another one, except that a leaf may be the beginning of a leaf. And the
expressions of every program that `parse` reads are `Readable`. -/
theorem prefixText_is_unambiguous :
    (∀ e e' : Expr, e.Readable → e'.Readable →
      (e.prefixText = e'.prefixText ↔ e.unlocated = e'.unlocated) ∧
      (e.prefixText.toList <+: e'.prefixText.toList → e.prefixText ≠ e'.prefixText →
        e.isBinary = false ∧ e'.isBinary = false)) ∧
    ∀ (text : String) (p : Program), (parse (Cursor.ofText text)).1 = .ok p →
      ∀ (e : Expr) (depth : Nat), (.expr e, depth) ∈ p.nodes → e.Readable := by
  refine ⟨?_, ?_⟩
  · intro e e' he he'
    refine ⟨⟨?_, ?_⟩, ?_⟩
    · intro htext
      have hnil : e.prefixText.toList ++ [] = e'.prefixText.toList ++ [] := by rw [htext]
      exact (prefixText_append_inj he he' e.endsBefore_nil e'.endsBefore_nil hnil).1
    · intro hshape
      rw [← prefixText_unlocated e, hshape, prefixText_unlocated]
    · rintro ⟨rest, hrest⟩ hne
      have hnil : e.prefixText.toList ++ rest = e'.prefixText.toList ++ [] := by simp [hrest]
      have hbinary := isBinary_eq_of_append he he' hnil
      cases hleaf : e.isBinary with
      | false => exact ⟨rfl, hbinary.symm.trans hleaf⟩
      | true =>
          -- An operation is read back whatever follows, so nothing does.
          have hends : e.EndsBefore rest := fun hfalse => by simp [hleaf] at hfalse
          obtain ⟨-, rfl⟩ := prefixText_append_inj he he' hends e'.endsBefore_nil hnil
          exact absurd (String.toList_inj.1 (by simpa using hrest)) hne
  · intro text p hparse e depth hmem
    exact WellFormed.readable (wellFormed_of_mem_nodes hparse _ hmem)

/-- An operation in an operation has one form at all places, and `12` begins `123`. -/
theorem prefixText_of_nested_operation :
    let nested := fun here : Location =>
      binary .add (id "a" here) (binary .mul (id "b" here) (number "2" here) here) here
    (nested ⟨1, 21⟩).prefixText = "+(a, *(b, 2))" ∧
    (nested ⟨1, 21⟩).prefixText = (nested ⟨3, 5⟩).prefixText ∧
    ((number "12" ⟨1, 1⟩).isBinary = false ∧ (number "123" ⟨1, 1⟩).isBinary = false) ∧
    ∃ p, (parse (ofText "int f(int a) \x7b return a + 2; \x7d")).1 = .ok p ∧
      ∃ e depth, (.expr e, depth) ∈ p.nodes ∧ e.prefixText = "+(a, 2)" ∧ e.Readable := by
  intro nested
  obtain ⟨hforms, hparsed⟩ := prefixText_is_unambiguous
  have hnested : ∀ here, (nested here).Readable := by
    have hwell : (nested ⟨1, 21⟩).WellFormed := by decide
    exact fun here => WellFormed.readable (e := nested here) hwell
  have hnumber : ∀ {text : String}, IsNumeral text → (number text ⟨1, 1⟩).Readable :=
    fun {text} h => WellFormed.readable (e := number text ⟨1, 1⟩) h
  refine ⟨by decide, ?_, ?_, ?_⟩
  · exact (hforms _ _ (hnested ⟨1, 21⟩) (hnested ⟨3, 5⟩)).1.2 rfl
  · exact (hforms _ _ (hnumber (by decide)) (hnumber (by decide))).2 (by decide) (by decide)
  · have hoption : (parse (ofText "int f(int a) \x7b return a + 2; \x7d")).1.toOption = some
        ⟨[⟨"f", .int, [⟨"a", .int, ⟨1, 7⟩⟩], [.returnValue (some (binary .add (id "a" ⟨1, 23⟩)
          (number "2" ⟨1, 27⟩) ⟨1, 25⟩)) ⟨1, 16⟩], ⟨1, 1⟩⟩]⟩ := by
      decide +kernel
    cases hparse : (parse (ofText "int f(int a) \x7b return a + 2; \x7d")).1 with
    | error e => simp [hparse, Except.toOption] at hoption
    | ok p =>
        rw [hparse] at hoption
        obtain rfl := Option.some.inj hoption
        refine ⟨_, rfl, binary .add (id "a" ⟨1, 23⟩) (number "2" ⟨1, 27⟩) ⟨1, 25⟩, 1, ?_, ?_, ?_⟩
        · decide +kernel
        · decide
        · exact hparsed _ _ hparse _ 1 (by decide +kernel)

end Expr
end SyntaxExplorer
