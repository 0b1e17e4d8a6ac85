import Mathlib.Data.List.Basic
import SyntaxExplorer.Proofs.Text.OneLine

/-!
# SyntaxExplorer.Proofs.Text.Readback

**What was meant can be read back from what is written.** A run of characters is determined by
where it ends (`run_inj`), and a number by its digits in any base (`toDigits_inj`).

For quoted text it takes little more: a character is written as itself or as an escape, which
a backslash announces, what ends or announces something is always escaped, and no escape
begins another one (`Text.Escaping`). Then what is written between two double quotes
determines the text and where it ends (`Escaping.closed_inj`), and `quotedWith` is injective
and writes one line (`Escaping.quotedWith_inj`, `Escaping.oneLine_quotedWith`). The escapes of
`Text.escapeChar` are of this kind (`escaping_escapeChar`).
-/

namespace SyntaxExplorer.Text

/-! ### Runs -/

/-- A run of characters that ends where `p` does is what `List.takeWhile` takes. -/
theorem takeWhile_run {p : Char → Bool} {w rest : List Char} (hw : ∀ c ∈ w, p c = true)
    (hrest : ∀ c ∈ rest.head?, p c = false) : (w ++ rest).takeWhile p = w := by
  rw [List.takeWhile_append_of_pos hw]
  cases rest with
  | nil => exact List.append_nil w
  | cons c rest => rw [List.takeWhile_cons_of_neg (by simp [hrest c rfl]), List.append_nil]

/-- A run in front of anything that is not a part of it is determined by the text. -/
theorem run_inj {p : Char → Bool} {w v rest rest' : List Char} (hw : ∀ c ∈ w, p c = true)
    (hv : ∀ c ∈ v, p c = true) (hrest : ∀ c ∈ rest.head?, p c = false)
    (hrest' : ∀ c ∈ rest'.head?, p c = false) (h : w ++ rest = v ++ rest') :
    w = v ∧ rest = rest' := by
  obtain rfl : w = v := by rw [← takeWhile_run hw hrest, h, takeWhile_run hv hrest']
  exact ⟨rfl, List.append_cancel_left h⟩

/-- What stands in front of a mark that ends it is determined by the text. -/
theorem ended_inj {mark : Char} {w v rest rest' : List Char} (hw : mark ∉ w) (hv : mark ∉ v)
    (h : w ++ mark :: rest = v ++ mark :: rest') : w = v ∧ rest = rest' := by
  have hrun : ∀ {w : List Char}, mark ∉ w → ∀ c ∈ w, (c != mark) = true :=
    fun hw c hc => bne_iff_ne.2 fun heq => hw (heq ▸ hc)
  have hend : ∀ {rest : List Char}, ∀ c ∈ (mark :: rest).head?, (c != mark) = false := by simp
  obtain ⟨hwords, hmore⟩ := run_inj (hrun hw) (hrun hv) hend hend h
  exact ⟨hwords, (List.cons.inj hmore).2⟩

/-! ### Digits -/

theorem digitChar_inj {m n : Nat} (hm : m < 16) (hn : n < 16)
    (h : m.digitChar = n.digitChar) : m = n := by
  have hall : ∀ a b : Fin 16, a.val.digitChar = b.val.digitChar → a = b := by decide
  exact Fin.val_eq_of_eq (hall ⟨m, hm⟩ ⟨n, hn⟩ h)

/-- The digits of a number in base sixteen, and in any smaller one, determine it. -/
theorem toDigits_inj {base : Nat} (hbase : 1 < base) (hdigit : base ≤ 16) {m n : Nat}
    (h : Nat.toDigits base m = Nat.toDigits base n) : m = n := by
  induction m using Nat.strongRecOn generalizing n with
  | ind m ih =>
      by_cases hm : m < base <;> by_cases hn : n < base
      · rw [Nat.toDigits_of_lt_base hm, Nat.toDigits_of_lt_base hn] at h
        exact digitChar_inj (by omega) (by omega) (List.singleton_inj.1 h)
      · have hn' : base ≤ n := Nat.le_of_not_lt hn
        rw [Nat.toDigits_of_lt_base hm, Nat.toDigits_of_base_le hbase hn'] at h
        rw [← List.nil_append [m.digitChar]] at h
        exact absurd (List.append_inj' h rfl).1.symm Nat.toDigits_ne_nil
      · have hm' : base ≤ m := Nat.le_of_not_lt hm
        rw [Nat.toDigits_of_base_le hbase hm', Nat.toDigits_of_lt_base hn] at h
        rw [← List.nil_append [n.digitChar]] at h
        exact absurd (List.append_inj' h rfl).1 Nat.toDigits_ne_nil
      · have hm' : base ≤ m := Nat.le_of_not_lt hm
        have hn' : base ≤ n := Nat.le_of_not_lt hn
        rw [Nat.toDigits_of_base_le hbase hm', Nat.toDigits_of_base_le hbase hn'] at h
        obtain ⟨hfront, hlast⟩ := List.append_inj' h rfl
        have hpos : 0 < base := by omega
        have hquotient : m / base = n / base :=
          ih _ (Nat.div_lt_self (by omega) hbase) hfront
        have hremainder : m % base = n % base :=
          digitChar_inj (Nat.lt_of_lt_of_le (Nat.mod_lt m hpos) hdigit)
            (Nat.lt_of_lt_of_le (Nat.mod_lt n hpos) hdigit) (List.singleton_inj.1 hlast)
        rw [← Nat.div_add_mod m base, ← Nat.div_add_mod n base, hquotient, hremainder]

/-! ### Escaping -/

/-- A way to write characters between double quotes, such as `escapeChar`. Each is written as
itself or as an escape, which begins with a backslash. -/
structure Escaping (escape : Char → List Char) : Prop where
  itself_or_escape : ∀ c, escape c = [c] ∨ ['\\'] <+: escape c
  /-- What ends the text, begins an escape or ends the line is escaped. -/
  escaped : ∀ c ∈ ['"', '\\', '\n'], escape c ≠ [c]
  /-- No escape has a line feed. -/
  oneLine : ∀ c, escape c ≠ [c] → '\n' ∉ escape c
  /-- The escapes of different characters are different, and none begins another one. -/
  prefixFree : ∀ c d, escape c ≠ [c] → escape d ≠ [d] → escape c <+: escape d → c = d

namespace Escaping

variable {escape : Char → List Char} {c d : Char} {rest rest' : List Char}

/-- A character that does not stand for itself is written behind a backslash. -/
theorem exists_of_ne (h : Escaping escape) (hc : escape c ≠ [c]) :
    ∃ tail, escape c = '\\' :: tail := by
  rcases h.itself_or_escape c with heq | ⟨tail, htail⟩
  · exact absurd heq hc
  · exact ⟨tail, htail.symm⟩

/-- The first character that is written tells those that stand for themselves apart from
those that are escaped. -/
theorem itself_iff (h : Escaping escape) (heq : escape c ++ rest = escape d ++ rest') :
    escape c = [c] ↔ escape d = [d] := by
  have hbackslash : escape '\\' ≠ ['\\'] := h.escaped '\\' (by decide)
  -- Where one stands for itself and the other does not, the one is a backslash.
  have hone : ∀ {c d : Char} {rest rest' : List Char},
      escape c ++ rest = escape d ++ rest' → escape c = [c] → escape d = [d] := by
    intro c d rest rest' heq hc
    by_contra hd
    obtain ⟨tail, htail⟩ := h.exists_of_ne hd
    rw [hc, htail] at heq
    obtain rfl : c = '\\' := (List.cons.inj heq).1
    exact hbackslash hc
  exact ⟨hone heq, hone heq.symm⟩

/-- What an `Escaping` writes for a character determines it and where it ends. -/
theorem append_inj (h : Escaping escape) (heq : escape c ++ rest = escape d ++ rest') :
    c = d ∧ rest = rest' := by
  have hcd : c = d := by
    by_cases hc : escape c = [c]
    · have hd : escape d = [d] := (h.itself_iff heq).1 hc
      rw [hc, hd] at heq
      exact (List.cons.inj heq).1
    · have hd : escape d ≠ [d] := fun hd => hc ((h.itself_iff heq).2 hd)
      have hprefix : escape c <+: escape d ++ rest' := ⟨rest, heq⟩
      rcases List.prefix_or_prefix_of_prefix hprefix ⟨rest', rfl⟩ with hle | hle
      · exact h.prefixFree c d hc hd hle
      · exact (h.prefixFree d c hd hc hle).symm
  subst hcd
  exact ⟨rfl, List.append_cancel_left heq⟩

/-- No `Escaping` writes a character so that it begins with a double quote. -/
theorem head_ne_quote (h : Escaping escape) : escape c ++ rest ≠ '"' :: rest' := by
  intro heq
  by_cases hc : escape c = [c]
  · rw [hc] at heq
    obtain rfl : c = '"' := (List.cons.inj heq).1
    exact h.escaped '"' (by decide) hc
  · obtain ⟨tail, htail⟩ := h.exists_of_ne hc
    rw [htail] at heq
    cases (List.cons.inj heq).1

/-- **What is written up to a closing double quote determines the text and where it ends.** -/
theorem closed_inj (h : Escaping escape) {cs ds : List Char}
    (heq : cs.flatMap escape ++ '"' :: rest = ds.flatMap escape ++ '"' :: rest') :
    cs = ds ∧ rest = rest' := by
  induction cs generalizing ds with
  | nil =>
      cases ds with
      | nil => exact ⟨rfl, (List.cons.inj heq).2⟩
      | cons d ds =>
          rw [List.flatMap_cons, List.append_assoc] at heq
          exact absurd heq.symm h.head_ne_quote
  | cons c cs ih =>
      cases ds with
      | nil =>
          rw [List.flatMap_cons, List.append_assoc] at heq
          exact absurd heq h.head_ne_quote
      | cons d ds =>
          rw [List.flatMap_cons, List.flatMap_cons, List.append_assoc, List.append_assoc] at heq
          obtain ⟨rfl, hrest⟩ := h.append_inj heq
          obtain ⟨rfl, hend⟩ := ih hrest
          exact ⟨rfl, hend⟩

/-- What an `Escaping` writes for a character has no line feed. -/
theorem lineFeed_not_mem (h : Escaping escape) (c : Char) : '\n' ∉ escape c := by
  by_cases hc : escape c = [c]
  · rw [hc, List.mem_singleton]
    rintro rfl
    exact h.escaped '\n' (by decide) hc
  · exact h.oneLine c hc

section Quoted

variable {write : Char → String} (h : Escaping fun c => (write c).toList)

include h

/-- **Quoted text is one line**, with any `Escaping`. -/
theorem oneLine_quotedWith (s : String) : OneLine (quotedWith write s) := by
  have hwritten : OneLine (String.join (s.toList.map write)) := by
    simpa [OneLine, String.toList_join] using fun c _ => h.lineFeed_not_mem c
  simp only [quotedWith, oneLine_append, hwritten, and_true]
  decide

/-- **Quoted text determines the text**, with any `Escaping`. -/
theorem quotedWith_inj {s t : String} (heq : quotedWith write s = quotedWith write t) :
    s = t := by
  have hlist : ∀ s, (quotedWith write s).toList =
      '"' :: ((s.toList.flatMap fun c => (write c).toList) ++ '"' :: []) := by
    intro s
    simp [quotedWith, String.toList_join, List.flatMap_map]
  have hlists := congrArg String.toList heq
  rw [hlist, hlist, List.cons_inj_right] at hlists
  exact String.toList_inj.1 (h.closed_inj hlists).1

end Quoted

end Escaping

/-! ### The escapes of quoted text -/

/-- The letter behind the backslash, where `escapeChar` writes two letters. -/
def mark? : Char → Option Char
  | '"' => some '"'
  | '\\' => some '\\'
  | '\n' => some 'n'
  | '\r' => some 'r'
  | '\t' => some 't'
  | '\x00' => some '0'
  | _ => none

/-- The escape of a character by its code point. -/
def codeEscape (c : Char) : List Char :=
  ['\\', 'u', '\x7b'] ++ (Nat.toDigits 16 c.toNat ++ ['\x7d'])

/-- A character is written behind a backslash (`mark?`), as itself, or by its code point
(`codeEscape`). -/
theorem toList_escapeChar (c : Char) : (escapeChar c).toList =
    match mark? c with
    | some mark => ['\\', mark]
    | none => if isShown c then [c] else codeEscape c := by
  unfold escapeChar mark?
  split
  case h_7 =>
    split <;> simp_all [hexDigits, codeEscape]
  all_goals rfl

/-- An escape has two letters or a code point. -/
theorem escape_cases {c : Char} (hc : (escapeChar c).toList ≠ [c]) :
    (∃ mark, mark? c = some mark ∧ (escapeChar c).toList = ['\\', mark]) ∨
      (escapeChar c).toList = codeEscape c := by
  rw [toList_escapeChar] at hc ⊢
  cases hmark : mark? c with
  | some mark => exact .inl ⟨mark, rfl, rfl⟩
  | none =>
      simp only [hmark] at hc ⊢
      split at hc
      · exact absurd rfl hc
      · exact .inr (if_neg ‹_›)

theorem mark?_inj {c d mark : Char} (hc : mark? c = some mark) (hd : mark? d = some mark) :
    c = d := by
  unfold mark? at hc hd
  split at hc <;> cases hc <;> split at hd <;> cases hd <;> rfl

theorem mark?_ne (c : Char) : mark? c ≠ some 'u' := by
  unfold mark?
  split <;> decide

theorem codeEscape_inj {c d : Char} (h : codeEscape c <+: codeEscape d) : c = d := by
  have hbrace : ∀ n, '\x7d' ∉ Nat.toDigits 16 n :=
    not_mem_toDigits (by decide) fun _ => Nat.digitChar_ne '\x7d' rfl
  obtain ⟨rest, hrest⟩ := (List.prefix_append_right_inj _).1 h
  rw [List.append_assoc] at hrest
  obtain ⟨hdigits, -⟩ := ended_inj (hbrace _) (hbrace _) hrest
  exact Char.toNat_inj.1 (toDigits_inj (by decide) (by decide) hdigits)

/-- **The escapes of `escapeChar` can be told apart**: they are an `Escaping`. -/
theorem escaping_escapeChar : Escaping fun c => (escapeChar c).toList where
  itself_or_escape c := by
    by_cases hc : (escapeChar c).toList = [c]
    · exact .inl hc
    · rcases escape_cases hc with ⟨mark, -, hmark⟩ | hcode
      · exact .inr ⟨[mark], hmark.symm⟩
      · exact .inr ⟨_, hcode.symm⟩
  escaped c hc := by
    simp only [List.mem_cons, List.not_mem_nil, or_false] at hc
    rcases hc with rfl | rfl | rfl <;> rw [toList_escapeChar] <;> decide
  oneLine c _ := oneLine_escapeChar c
  prefixFree c d hc hd h := by
    rcases escape_cases hc with ⟨mark, hmark, hc⟩ | hc <;>
      rcases escape_cases hd with ⟨mark', hmark', hd⟩ | hd <;>
      rw [hc, hd] at h
    · obtain ⟨-, hletters⟩ := List.cons_prefix_cons.1 h
      obtain rfl := (List.cons_prefix_cons.1 hletters).1
      exact mark?_inj hmark hmark'
    · obtain ⟨-, hletters⟩ := List.cons_prefix_cons.1 h
      obtain rfl := (List.cons_prefix_cons.1 hletters).1
      exact absurd hmark (mark?_ne c)
    · obtain ⟨-, hletters⟩ := List.cons_prefix_cons.1 h
      obtain rfl := (List.cons_prefix_cons.1 hletters).1
      exact absurd hmark' (mark?_ne d)
    · exact codeEscape_inj h

end SyntaxExplorer.Text
