import SyntaxExplorer.Token.Source

/-!
# SyntaxExplorer.Proofs.Token.Source

**Draining a source, one pull at a time.** `TokenSource.drain` loops with the
tokens it has in hand; here is what it hands over, by the first answer of the
source (`drain_of_error`, `drain_of_end`, `drain_of_token`).
-/

namespace SyntaxExplorer

namespace TokenSource

variable {σ : Type} [TokenSource σ]

/-- The tokens that `drainFrom` has in hand stand in front of those still to be pulled. -/
theorem drainFrom_append (read before : List Token) (s : σ) :
    drainFrom (read ++ before) s =
      ⟨before.reverse ++ (drainFrom read s).tokens, (drainFrom read s).error⟩ := by
  fun_induction drainFrom read s with
  | case1 read s e _ h =>
      rw [drainFrom, h, List.reverse_append]
  | case2 read s t s' h ht =>
      rw [drainFrom, h]
      simp [ht]
  | case3 read s t s' h ht ih =>
      rw [drainFrom, h]
      simpa [ht] using ih

theorem drain_of_error {s s' : σ} {e : ScanError} (h : pull s = (.error e, s')) :
    drain s = ⟨[], some e⟩ := by
  rw [drain, drainFrom, h]
  rfl

theorem drain_of_end {s s' : σ} {t : Token} (h : pull s = (.ok t, s')) (ht : t.isEnd = true) :
    drain s = ⟨[t], none⟩ := by
  rw [drain, drainFrom, h]
  simp [ht]

theorem drain_of_token {s s' : σ} {t : Token} (h : pull s = (.ok t, s'))
    (ht : t.isEnd = false) : drain s = ⟨t :: (drain s').tokens, (drain s').error⟩ := by
  have hrest := drainFrom_append [] [t] s'
  rw [List.nil_append] at hrest
  rw [drain, drainFrom, h]
  simpa [ht, drain] using hrest

/-- What `drain` hands out is decided by the first `pull`. -/
theorem drain_congr {s s' : σ} (h : pull s = pull s') : drain s = drain s' := by
  cases hpull : pull s' with
  | mk answer next =>
  cases answer with
  | error e => rw [drain_of_error (h.trans hpull), drain_of_error hpull]
  | ok t =>
      cases ht : t.isEnd with
      | true => rw [drain_of_end (h.trans hpull) ht, drain_of_end hpull ht]
      | false => rw [drain_of_token (h.trans hpull) ht, drain_of_token hpull ht]

/-- Where `tokens` does not fail, its tokens are all that `drain` hands out. -/
theorem drain_of_tokens {s : σ} {ts : List Token} (h : tokens s = .ok ts) :
    drain s = ⟨ts, none⟩ := by
  unfold tokens at h
  cases hdrain : drain s with
  | mk drained error => cases error <;> simp_all

/-- Induction over what `drain` hands out, `pull` by `pull`. -/
theorem drain_induction {motive : σ → Drained → Prop}
    (error : ∀ s s' e, pull s = (.error e, s') → motive s ⟨[], some e⟩)
    (last : ∀ s s' t, pull s = (.ok t, s') → t.isEnd = true → motive s ⟨[t], none⟩)
    (token : ∀ s s' t, pull s = (.ok t, s') → t.isEnd = false → motive s' (drain s') →
      motive s ⟨t :: (drain s').tokens, (drain s').error⟩) (s : σ) : motive s (drain s) :=
  match h : pull s with
  | (.error e, s') => by
      rw [drain_of_error h]
      exact error s s' e h
  | (.ok t, s') =>
      if ht : t.isEnd = true then by
        rw [drain_of_end h ht]
        exact last s s' t h ht
      else by
        have hnot : t.isEnd = false := by simpa using ht
        rw [drain_of_token h hnot]
        exact token s s' t h hnot (drain_induction error last token s')
termination_by remaining s
decreasing_by exact remaining_lt h hnot

/-- What `drain` hands out first is the first `pull`. -/
theorem exists_pull_of_drain_cons {s : σ} {t : Token} {ts : List Token}
    {error : Option ScanError} (h : drain s = ⟨t :: ts, error⟩) :
    ∃ s', pull s = (.ok t, s') := by
  cases hpull : pull s with
  | mk answer s' =>
  refine ⟨s', ?_⟩
  cases answer with
  | error e => cases (drain_of_error hpull).symm.trans h
  | ok u =>
      cases hu : u.isEnd with
      | true =>
          cases (drain_of_end hpull hu).symm.trans h
          rfl
      | false =>
          cases (drain_of_token hpull hu).symm.trans h
          rfl

/-- Where `drain` hands out nothing in front of a failure, it is the first `pull`. -/
theorem exists_pull_of_drain_nil {s : σ} {e : ScanError} (h : drain s = ⟨[], some e⟩) :
    ∃ s', pull s = (.error e, s') := by
  cases hpull : pull s with
  | mk answer s' =>
  refine ⟨s', ?_⟩
  cases answer with
  | error e' =>
      cases (drain_of_error hpull).symm.trans h
      rfl
  | ok t =>
      cases ht : t.isEnd with
      | true => cases (drain_of_end hpull ht).symm.trans h
      | false => cases (drain_of_token hpull ht).symm.trans h

/-- What `drain` hands out without a failure ends with a token that `isEnd`, the only one. -/
theorem exists_drain_eq_append {s : σ} {ts : List Token} (h : drain s = ⟨ts, none⟩) :
    ∃ front last, ts = front ++ [last] ∧ last.isEnd = true ∧ ∀ t ∈ front, t.isEnd = false := by
  suffices hdrained : (drain s).error = none → ∃ front last,
      (drain s).tokens = front ++ [last] ∧ last.isEnd = true ∧ ∀ t ∈ front, t.isEnd = false by
    rw [h] at hdrained
    exact hdrained rfl
  refine drain_induction (motive := fun _ d => d.error = none → ∃ front last,
    d.tokens = front ++ [last] ∧ last.isEnd = true ∧ ∀ t ∈ front, t.isEnd = false) ?_ ?_ ?_ s
  · intro s s' e _ herror
    cases herror
  · intro s s' t _ ht _
    exact ⟨[], t, rfl, ht, by simp⟩
  · intro s s' t _ ht ih herror
    obtain ⟨front, last, htokens, hlast, hfront⟩ := ih herror
    refine ⟨t :: front, last, ?_, hlast, List.forall_mem_cons.2 ⟨ht, hfront⟩⟩
    simp only [htokens, List.cons_append]

/-- A source that fails has not come to the end of the text. -/
theorem isEnd_eq_false_of_drainFrom (read : List Token) (s : σ) {ts : List Token}
    {e : ScanError} (h : drainFrom read s = ⟨ts, some e⟩) (hread : ∀ t ∈ read, t.isEnd = false) :
    ∀ t ∈ ts, t.isEnd = false := by
  fun_induction drainFrom read s with
  | case1 read s e' _ _ =>
      cases h
      simpa using hread
  | case2 read s t s' _ _ => cases h
  | case3 read s t s' _ ht ih =>
      exact ih h (List.forall_mem_cons.2 ⟨by simpa using ht, hread⟩)

theorem isEnd_eq_false_of_drain {s : σ} {ts : List Token} {e : ScanError}
    (h : drain s = ⟨ts, some e⟩) : ∀ t ∈ ts, t.isEnd = false :=
  isEnd_eq_false_of_drainFrom [] s h (by simp)

/-- Nothing comes behind the end of the text. -/
theorem eq_nil_of_drain {s : σ} {front rest : List Token} {t : Token} {error : Option ScanError}
    (h : drain s = ⟨front ++ t :: rest, error⟩) (ht : t.isEnd = true) :
    rest = [] ∧ error = none := by
  cases error with
  | some e => simp [isEnd_eq_false_of_drain h t (by simp)] at ht
  | none =>
      refine ⟨?_, rfl⟩
      obtain ⟨init, last, htokens, -, hinit⟩ := exists_drain_eq_append h
      obtain rfl | ⟨rest, last', rfl⟩ := List.eq_nil_or_concat rest
      · rfl
      · have hcut : front ++ t :: rest = init := by
          rw [List.concat_eq_append, ← List.cons_append, ← List.append_assoc] at htokens
          exact List.append_inj_left' htokens rfl
        have hmem : t ∈ init := by simp [← hcut]
        simp [hinit t hmem] at ht

/-! ### Pulling so many times -/

/-- `pulls (m + n)` are `m` pulls and then `n`. -/
theorem pulls_add (m n : Nat) (s : σ) :
    pulls (m + n) s =
      ((pulls m s).1 ++ (pulls n (pulls m s).2).1, (pulls n (pulls m s).2).2) := by
  induction m generalizing s with
  | zero => simp [pulls]
  | succ m ih => simp [Nat.succ_add, pulls, ih]

/-- An invariant of `pull` holds after any number of `pulls`. -/
theorem pulls_keep (invariant : σ → Prop) (hpull : ∀ s, invariant s → invariant (pull s).2)
    (n : Nat) {s : σ} (h : invariant s) : invariant (pulls n s).2 := by
  induction n generalizing s with
  | zero => exact h
  | succ n ih => exact ih (hpull s h)

/-- What an invariant of `pull` says of each answer holds of all answers of `pulls`. -/
theorem forall_mem_pulls (invariant : σ → Prop) {motive : Except ScanError Token → Prop}
    (hpull : ∀ s, invariant s → motive (pull s).1 ∧ invariant (pull s).2) (n : Nat) {s : σ}
    (h : invariant s) : ∀ answer ∈ (pulls n s).1, motive answer := by
  induction n generalizing s with
  | zero => simp [pulls]
  | succ n ih =>
      obtain ⟨hfirst, hrest⟩ := hpull s h
      exact List.forall_mem_cons.2 ⟨hfirst, ih hrest⟩

/-- What `drain` hands out, and the failure behind it, are the answers of so many `pulls`. -/
theorem exists_pulls_drain (s : σ) :
    ∃ count ≤ remaining s + 1, (pulls count s).1 =
      (drain s).tokens.map .ok ++ (drain s).error.toList.map .error := by
  refine drain_induction (motive := fun s d => ∃ count ≤ remaining s + 1, (pulls count s).1 =
    d.tokens.map .ok ++ d.error.toList.map .error) ?_ ?_ ?_ s
  · intro s s' e hpull
    exact ⟨1, Nat.le_add_left .., by simp [pulls, hpull]⟩
  · intro s s' t hpull _
    exact ⟨1, Nat.le_add_left .., by simp [pulls, hpull]⟩
  · intro s s' t hpull ht ih
    obtain ⟨count, hcount, hpulls⟩ := ih
    have hlt := remaining_lt hpull ht
    exact ⟨count + 1, by omega, by simp [pulls, hpull, hpulls]⟩

/-- The failure that ends a `drain` is one of the answers of `pulls`. -/
theorem exists_mem_pulls_of_drain {s : σ} {e : ScanError} (h : (drain s).error = some e) :
    ∃ n, .error e ∈ (pulls n s).1 := by
  obtain ⟨count, -, hpulls⟩ := exists_pulls_drain s
  exact ⟨count, by simp [hpulls, h]⟩

end TokenSource

end SyntaxExplorer
