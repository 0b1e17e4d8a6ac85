import SyntaxExplorer.Text.Quoted

/-!
# SyntaxExplorer.Proofs.Text.OneLine

**Texts of one line.** A text is one line if no line feed stands in it (`Text.OneLine`). So it
is with the digits of a number, and with what `escapeChar` writes for any character: a line
feed is written as an escape, and no escape has one (`oneLine_escapeChar`).
-/

namespace SyntaxExplorer.Text

/-- The text has no line feed. -/
def OneLine (s : String) : Prop := '\n' ∉ s.toList

instance (s : String) : Decidable (OneLine s) := inferInstanceAs (Decidable ('\n' ∉ s.toList))

theorem oneLine_append {s t : String} : OneLine (s ++ t) ↔ OneLine s ∧ OneLine t := by
  simp [OneLine]

theorem oneLine_singleton {c : Char} : OneLine (String.singleton c) ↔ c ≠ '\n' := by
  simp [OneLine, eq_comm]

theorem oneLine_ofList {cs : List Char} : OneLine (String.ofList cs) ↔ '\n' ∉ cs := by
  simp [OneLine]

/-- A character that no `Nat.digitChar` is does not stand among the digits of a number. -/
theorem not_mem_toDigits {base : Nat} (hbase : 1 < base) {c : Char}
    (hc : ∀ d : Nat, d.digitChar ≠ c) (n : Nat) : c ∉ Nat.toDigits base n := by
  induction n using Nat.strongRecOn with
  | ind n ih =>
      by_cases hn : n < base
      · rw [Nat.toDigits_of_lt_base hn, List.mem_singleton]
        exact (hc n).symm
      · have hle : base ≤ n := Nat.le_of_not_lt hn
        have hlt : n / base < n := Nat.div_lt_self (by omega) hbase
        rw [Nat.toDigits_of_base_le hbase hle, List.mem_append, List.mem_singleton, not_or]
        exact ⟨ih (n / base) hlt, (hc _).symm⟩

theorem oneLine_toString (n : Nat) : OneLine (toString n) := by
  have hmem : '\n' ∉ Nat.toDigits 10 n :=
    not_mem_toDigits (by decide) (fun _ => Nat.digitChar_ne '\n' rfl) n
  simpa [OneLine] using hmem

theorem oneLine_hexDigits (code : Nat) : OneLine (hexDigits code) :=
  oneLine_ofList.2 (not_mem_toDigits (by decide) (fun _ => Nat.digitChar_ne '\n' rfl) code)

/-- What `escapeChar` writes for a character is one line. -/
theorem oneLine_escapeChar (c : Char) : OneLine (escapeChar c) := by
  unfold escapeChar
  split
  case h_7 hlineFeed _ _ _ =>
    split
    · exact oneLine_singleton.2 hlineFeed
    · simp only [oneLine_append, oneLine_hexDigits, and_true]
      decide
  all_goals decide

end SyntaxExplorer.Text
