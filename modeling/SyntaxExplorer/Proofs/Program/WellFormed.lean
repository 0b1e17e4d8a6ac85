import SyntaxExplorer.Program.Basic
import SyntaxExplorer.Scanner

/-!
# SyntaxExplorer.Proofs.Program.WellFormed

**Well-formed trees.** A tree is well formed if a text can have it: no list of
functions or statements is empty, every name is a word that is not reserved, and
every text of a number is the decimal form of one that can be read. All of this
can be decided.
-/

namespace SyntaxExplorer

/-! ### Names and numbers -/

/-- A word that names something: it is spelled as one, and not the `spelling` of a `Keyword`. -/
def IsName (name : String) : Prop :=
  (∃ c cs, name.toList = c :: cs ∧ isWordStart c = true ∧ ∀ d ∈ cs, isWordPart d = true) ∧
    ∀ k : Keyword, name ≠ k.spelling

theorem Keyword.mem_all (k : Keyword) : k ∈ Keyword.all := by
  cases k <;> decide

theorem Keyword.eq_spelling_of_ofSpelling? {w : String} {k : Keyword}
    (h : ofSpelling? w = some k) : w = k.spelling := by
  unfold ofSpelling? at h
  split at h <;> cases h <;> rfl

theorem isName_iff (name : String) :
    IsName name ↔ name.toList.head?.any isWordStart = true ∧
      name.toList.tail.all isWordPart = true ∧ ∀ k ∈ Keyword.all, name ≠ k.spelling := by
  have hkeywords : (∀ k : Keyword, name ≠ k.spelling) ↔ ∀ k ∈ Keyword.all, name ≠ k.spelling :=
    ⟨fun h k _ => h k, fun h k => h k k.mem_all⟩
  rw [IsName, hkeywords, ← and_assoc]
  refine and_congr_left fun _ => ?_
  cases name.toList with
  | nil => simp
  | cons c cs =>
      constructor
      · rintro ⟨c, cs, heq, hc, hcs⟩
        obtain ⟨rfl, rfl⟩ := List.cons.inj heq
        exact ⟨hc, List.all_eq_true.2 hcs⟩
      · rintro ⟨hc, hcs⟩
        exact ⟨c, cs, rfl, hc, List.all_eq_true.1 hcs⟩

instance (name : String) : Decidable (IsName name) := decidable_of_iff _ (isName_iff name).symm

/-- The decimal text of a number below `numberBound`. -/
def IsNumeral (text : String) : Prop := ∃ value < numberBound, text = toString value

theorem isDigit_of_mem_toString {v : Nat} {c : Char} (h : c ∈ (toString v).toList) :
    c.isDigit = true := by
  have hmem : c ∈ Nat.toDigits 10 v := by simpa using h
  exact Nat.isDigit_of_mem_toDigits (by decide) (by decide) hmem

theorem isNumeral_iff (text : String) :
    IsNumeral text ↔ Nat.ofDigitChars 10 text.toList 0 < numberBound ∧
      text = toString (Nat.ofDigitChars 10 text.toList 0) := by
  constructor
  · rintro ⟨v, hv, rfl⟩
    have hvalue : Nat.ofDigitChars 10 (toString v).toList 0 = v := by simp
    rw [hvalue]
    exact ⟨hv, rfl⟩
  · rintro ⟨hv, htext⟩
    exact ⟨_, hv, htext⟩

instance (text : String) : Decidable (IsNumeral text) :=
  decidable_of_iff _ (isNumeral_iff text).symm

/-! ### Lexemes and trees -/

/-- The number of the lexeme is below `numberBound`, and its identifier `IsName`. -/
def Lexeme.WellFormed : Lexeme → Prop
  | number value => ∃ v : Nat, v < numberBound ∧ value = v
  | identifier name => IsName name
  | _ => True

def Expr.WellFormed : Expr → Prop
  | number text _ => IsNumeral text
  | id name _ => IsName name
  | binary _ left right _ => left.WellFormed ∧ right.WellFormed

mutual

def Statement.WellFormed : Statement → Prop
  | .declaration name _ initializer _ => IsName name ∧ ∀ e ∈ initializer, e.WellFormed
  | .assignment target value _ => IsName target ∧ value.WellFormed
  | .ifThen condition body _ =>
    condition.WellFormed ∧ body ≠ [] ∧ Statement.AllWellFormed body
  | .ifElse condition body other _ _ =>
    condition.WellFormed ∧ (body ≠ [] ∧ Statement.AllWellFormed body) ∧
      other ≠ [] ∧ Statement.AllWellFormed other
  | .whileLoop condition body _ =>
    condition.WellFormed ∧ body ≠ [] ∧ Statement.AllWellFormed body
  | .returnValue value _ => ∀ e ∈ value, e.WellFormed

def Statement.AllWellFormed : List Statement → Prop
  | [] => True
  | s :: ss => s.WellFormed ∧ Statement.AllWellFormed ss

end

theorem Statement.allWellFormed_iff (ss : List Statement) :
    AllWellFormed ss ↔ ∀ s ∈ ss, s.WellFormed := by
  induction ss with
  | nil => simp [AllWellFormed]
  | cons s ss ih => simp [AllWellFormed, ih]

def Function.WellFormed (f : Function) : Prop :=
  IsName f.name ∧ (∀ p ∈ f.params, IsName p.name) ∧ f.body ≠ [] ∧ ∀ s ∈ f.body, s.WellFormed

def Program.WellFormed (p : Program) : Prop :=
  p.functions ≠ [] ∧ ∀ f ∈ p.functions, f.WellFormed

/-! ### Deciding -/

def Expr.decidableWellFormed : (e : Expr) → Decidable e.WellFormed
  | number text _ => inferInstanceAs (Decidable (IsNumeral text))
  | id name _ => inferInstanceAs (Decidable (IsName name))
  | binary _ left right _ =>
    have := left.decidableWellFormed
    have := right.decidableWellFormed
    inferInstanceAs (Decidable (left.WellFormed ∧ right.WellFormed))

instance (e : Expr) : Decidable e.WellFormed := e.decidableWellFormed

mutual

def Statement.decidableWellFormed : (s : Statement) → Decidable s.WellFormed
  | .declaration name _ initializer _ =>
    inferInstanceAs (Decidable (IsName name ∧ ∀ e ∈ initializer, e.WellFormed))
  | .assignment target value _ => inferInstanceAs (Decidable (IsName target ∧ value.WellFormed))
  | .ifThen condition body _ =>
    have := Statement.decidableAllWellFormed body
    inferInstanceAs (Decidable (condition.WellFormed ∧ body ≠ [] ∧ Statement.AllWellFormed body))
  | .ifElse condition body other _ _ =>
    have := Statement.decidableAllWellFormed body
    have := Statement.decidableAllWellFormed other
    inferInstanceAs (Decidable (condition.WellFormed ∧
      (body ≠ [] ∧ Statement.AllWellFormed body) ∧ other ≠ [] ∧ Statement.AllWellFormed other))
  | .whileLoop condition body _ =>
    have := Statement.decidableAllWellFormed body
    inferInstanceAs (Decidable (condition.WellFormed ∧ body ≠ [] ∧ Statement.AllWellFormed body))
  | .returnValue value _ => inferInstanceAs (Decidable (∀ e ∈ value, e.WellFormed))

def Statement.decidableAllWellFormed :
    (ss : List Statement) → Decidable (Statement.AllWellFormed ss)
  | [] => inferInstanceAs (Decidable True)
  | s :: ss =>
    have := s.decidableWellFormed
    have := Statement.decidableAllWellFormed ss
    inferInstanceAs (Decidable (s.WellFormed ∧ Statement.AllWellFormed ss))

end

instance (s : Statement) : Decidable s.WellFormed := s.decidableWellFormed

instance (f : Function) : Decidable f.WellFormed :=
  inferInstanceAs (Decidable (IsName f.name ∧ (∀ p ∈ f.params, IsName p.name) ∧ f.body ≠ [] ∧
    ∀ s ∈ f.body, s.WellFormed))

instance (p : Program) : Decidable p.WellFormed :=
  inferInstanceAs (Decidable (p.functions ≠ [] ∧ ∀ f ∈ p.functions, f.WellFormed))

end SyntaxExplorer
