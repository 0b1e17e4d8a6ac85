import Mathlib.Data.List.Basic
import Mathlib.Data.List.Induction
import Mathlib.Data.Nat.Digits.Defs

/-!
# SyntaxExplorer.Proofs.Text.Decimal

**Decimal numerals and the numbers they denote.** Digits denote a number by their
positions (`decimalValue`), and zeros in front of them do not count. Reading digits from
the left, one after the other, comes to that number (`ofDigitChars_eq_decimalValue`).

A number has one numeral without zeros in front, which is the one that it is written with
(`toDigits_decimalValue`). So digits that denote the same number are the same once these
zeros are dropped, and only those are (`withoutZeros_eq_iff`).
-/

namespace SyntaxExplorer

namespace Text

/-- The number that a digit denotes. -/
def digitValue (c : Char) : Nat := c.toNat - '0'.toNat

/-- The number that digits denote: the last one counts once, and any other one ten times as
much as the one behind it would. -/
def decimalValue (digits : List Char) : Nat := Nat.ofDigits 10 (digits.reverse.map digitValue)

/-- The digits without the zeros in front. If there is nothing but zeros, one of them stays. -/
def withoutZeros (digits : List Char) : List Char :=
  match digits.dropWhile (· == '0') with
  | [] => ['0']
  | d :: ds => d :: ds

variable {digits digits' : List Char} {c : Char}

/-! ### Values -/

@[simp] theorem decimalValue_nil : decimalValue [] = 0 := rfl

theorem decimalValue_concat (digits : List Char) (c : Char) :
    decimalValue (digits ++ [c]) = 10 * decimalValue digits + digitValue c := by
  rw [decimalValue, List.reverse_concat, List.map_cons, Nat.ofDigits_cons, Nat.add_comm]
  rfl

/-- Digits read one after the other (`Nat.ofDigitChars`) come to their `decimalValue`. -/
theorem ofDigitChars_eq_decimalValue (digits : List Char) :
    Nat.ofDigitChars 10 digits 0 = decimalValue digits := by
  induction digits using List.reverseRecOn with
  | nil => rfl
  | append_singleton digits c ih =>
      rw [Nat.ofDigitChars_append, ih, decimalValue_concat, Nat.ofDigitChars_cons,
        Nat.ofDigitChars_nil]
      rfl

theorem decimalValue_zero_cons (digits : List Char) :
    decimalValue ('0' :: digits) = decimalValue digits := by
  rw [← ofDigitChars_eq_decimalValue, ← ofDigitChars_eq_decimalValue, Nat.ofDigitChars_cons]
  rfl

theorem decimalValue_dropWhile (digits : List Char) :
    decimalValue (digits.dropWhile (· == '0')) = decimalValue digits := by
  induction digits with
  | nil => rfl
  | cons d ds ih =>
      by_cases hd : d = '0'
      · subst hd
        rw [List.dropWhile_cons_of_pos (by decide), ih, decimalValue_zero_cons]
      · rw [List.dropWhile_cons_of_neg (by simpa using hd)]

/-! ### The numeral of a number -/

theorem digitValue_lt (h : c.isDigit = true) : digitValue c < 10 := by
  have hle : c.toNat ≤ 57 := of_decide_eq_true (Bool.and_eq_true_iff.1 h).2
  show c.toNat - 48 < 10
  omega

/-- A digit is the one that its `digitValue` is written with. -/
theorem digitChar_digitValue (h : c.isDigit = true) : (digitValue c).digitChar = c := by
  have hge : 48 ≤ c.toNat := of_decide_eq_true (Bool.and_eq_true_iff.1 h).1
  have hchar : ∀ k < 10, k.digitChar = Char.ofNat (48 + k) := by decide
  have hnat : 48 + digitValue c = c.toNat := Nat.add_sub_cancel' hge
  rw [hchar _ (digitValue_lt h), hnat, Char.ofNat_toNat]

theorem digitValue_pos (h : c.isDigit = true) (hne : c ≠ '0') : 0 < digitValue c := by
  refine Nat.pos_of_ne_zero fun hzero => hne ?_
  rw [← digitChar_digitValue h, hzero]
  rfl

/-- The `decimalValue` of digits that do not begin with a zero is written as they stand. -/
theorem toDigits_of_head?_ne (hne : digits ≠ []) (hdigits : ∀ c ∈ digits, c.isDigit = true)
    (hhead : digits.head? ≠ some '0') :
    0 < decimalValue digits ∧ Nat.toDigits 10 (decimalValue digits) = digits := by
  induction digits using List.reverseRecOn with
  | nil => exact absurd rfl hne
  | append_singleton front c ih =>
      rw [List.forall_mem_append, List.forall_mem_singleton] at hdigits
      have hlt := digitValue_lt hdigits.2
      rw [decimalValue_concat]
      by_cases hfront : front = []
      · -- A single digit.
        subst hfront
        have hpos := digitValue_pos hdigits.2 (by simpa using hhead)
        refine ⟨by omega, ?_⟩
        rw [decimalValue_nil, Nat.mul_zero, Nat.zero_add, Nat.toDigits_of_lt_base hlt,
          digitChar_digitValue hdigits.2]
        rfl
      · rw [List.head?_append_of_ne_nil _ hfront] at hhead
        obtain ⟨hpos, hwritten⟩ := ih hfront hdigits.1 hhead
        refine ⟨by omega, ?_⟩
        rw [← Nat.toDigits_append_toDigits (by decide) hpos hlt, hwritten,
          Nat.toDigits_of_lt_base hlt, digitChar_digitValue hdigits.2]

/-- **A number is written as any of its numerals is `withoutZeros`.** -/
theorem toDigits_decimalValue (hdigits : ∀ c ∈ digits, c.isDigit = true) :
    Nat.toDigits 10 (decimalValue digits) = withoutZeros digits := by
  have hhead := List.head?_dropWhile_not (· == '0') digits
  have hrest : ∀ c ∈ digits.dropWhile (· == '0'), c.isDigit = true := fun c hc =>
    hdigits c ((List.dropWhile_suffix _).subset hc)
  rw [← decimalValue_dropWhile, withoutZeros]
  cases hdrop : digits.dropWhile (· == '0') with
  | nil => rfl
  | cons d ds =>
      rw [hdrop] at hhead hrest
      have hd : d ≠ '0' := by simpa using hhead
      exact (toDigits_of_head?_ne (List.cons_ne_nil d ds) hrest (by simpa using hd)).2

theorem withoutZeros_ne_nil (digits : List Char) : withoutZeros digits ≠ [] := by
  rw [withoutZeros]
  split <;> exact List.cons_ne_nil _ _

theorem isDigit_of_mem_withoutZeros (hdigits : ∀ c ∈ digits, c.isDigit = true) :
    ∀ c ∈ withoutZeros digits, c.isDigit = true := by
  rw [← toDigits_decimalValue hdigits]
  exact fun c => Nat.isDigit_of_mem_toDigits (by decide) (by decide)

theorem decimalValue_withoutZeros (digits : List Char) :
    decimalValue (withoutZeros digits) = decimalValue digits := by
  rw [← decimalValue_dropWhile digits, withoutZeros]
  cases digits.dropWhile (· == '0') <;> rfl

/-- Numerals have the same `decimalValue` if they are the same `withoutZeros`, and only then. -/
theorem withoutZeros_eq_iff (hdigits : ∀ c ∈ digits, c.isDigit = true)
    (hdigits' : ∀ c ∈ digits', c.isDigit = true) :
    withoutZeros digits = withoutZeros digits' ↔ decimalValue digits = decimalValue digits' := by
  constructor
  · intro h
    rw [← decimalValue_withoutZeros digits, h, decimalValue_withoutZeros]
  · intro h
    rw [← toDigits_decimalValue hdigits, h, toDigits_decimalValue hdigits']

end Text

end SyntaxExplorer
