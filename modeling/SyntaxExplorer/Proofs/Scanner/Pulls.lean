import SyntaxExplorer.Proofs.Scanner.Coordinates
import SyntaxExplorer.Proofs.Scanner.Tokens

/-!
# SyntaxExplorer.Proofs.Scanner.Pulls

**Asking a text for tokens comes to an end.** Whatever else a text answers than its end,
a token or an error, uses up some of it (`exists_moves_of_not_isEnd`), so a text of so
many characters answers at most so often with anything else. Its end is answered where
the whole text is used up, and from there on for ever (`exists_pulls_end`).

Reading all tokens of a text asks for one more than there are characters at most, and
what is read ends with the end of the text, each token behind the one before it
(`pulls_come_to_end`).
-/

namespace SyntaxExplorer

namespace Cursor

open TokenSource

/-- Is this answer the end of the text? -/
def isEnd : Except ScanError Token → Bool
  | .ok t => t.isEnd
  | .error _ => false

/-- The answer of a cursor that stands at the end of its text (`atEnd`). -/
def endAnswer (c : Cursor) : Except ScanError Token := .ok ⟨.endOfFile, c.atEnd.location⟩

variable {c c' : Cursor} {cs : List Char}

/-! ### One answer -/

/-- Where `scan` answers the end of the text, all of it is used up: this is `endAnswer`. -/
theorem scan_of_isEnd (h : isEnd c.scan.1 = true) : c.scan = (c.endAnswer, c.atEnd) := by
  cases hscan : c.scan with
  | mk answer c' =>
  rw [hscan] at h
  cases answer with
  | error e => cases h
  | ok t =>
      rcases scan_cases hscan with ⟨_, word, _, hspells, -⟩ | ⟨_, _, -, -, hmoves, hrest, rfl⟩
      · -- The end of the text is not spelled.
        cases (hspells.isEnd_eq_false t.location).symm.trans h
      · have hatEnd : c' = c.atEnd := by
          have hpast := hmoves.past_rest
          rw [hrest, Location.past_nil] at hpast
          rw [atEnd, ← hpast, ← hrest]
        rw [endAnswer, ← hatEnd]

/-- Where `scan` answers anything but the end, some of the text is used up. -/
theorem exists_moves_of_not_isEnd (h : isEnd c.scan.1 = false) :
    ∃ used, used ≠ [] ∧ c.Moves used c.scan.2 := by
  cases hscan : c.scan with
  | mk answer c' =>
  rw [hscan] at h
  cases answer with
  | error e =>
      obtain ⟨lead, used, -, hmoves, hfault, -⟩ := scan_error hscan
      exact ⟨_, by simp [hfault.ne_nil], hmoves⟩
  | ok t =>
      rcases scan_cases hscan with ⟨lead, word, -, hspells, -, hmoves, -⟩ | ⟨_, _, -, -, -, -, rfl⟩
      · exact ⟨_, by simp [hspells.ne_nil], hmoves⟩
      · cases h

theorem Moves.atEnd_eq (h : c.Moves cs c') : c'.atEnd = c.atEnd := by
  rw [atEnd, atEnd, h.past_rest]

theorem Moves.endAnswer_eq (h : c.Moves cs c') : c'.endAnswer = c.endAnswer := by
  rw [endAnswer, endAnswer, h.atEnd_eq]

/-! ### All answers -/

/-- At the end of the text `pulls` changes nothing any more. -/
theorem pulls_atEnd (c : Cursor) (k : Nat) :
    pulls k c.atEnd = (List.replicate k c.endAnswer, c.atEnd) := by
  induction k with
  | zero => rfl
  | succ k ih =>
      have hscan : TokenSource.pull c.atEnd = (c.endAnswer, c.atEnd) := scan_ending (.inl rfl) _
      simp [pulls, hscan, ih, List.replicate_succ]

/-- Behind some answers that are not the end of the text, no more than there are characters
left, all answers of `pulls` are `endAnswer`, and all of the text is used up. -/
theorem exists_pulls_end (c : Cursor) :
    ∃ m ≤ c.rest.length, (∀ answer ∈ (pulls m c).1, isEnd answer = false) ∧
      ∀ k, pulls (m + (k + 1)) c =
        ((pulls m c).1 ++ List.replicate (k + 1) c.endAnswer, c.atEnd) := by
  by_cases h : isEnd c.scan.1 = true
  · refine ⟨0, Nat.zero_le _, by simp [pulls], fun k => ?_⟩
    have hpull : TokenSource.pull c = (c.endAnswer, c.atEnd) := scan_of_isEnd h
    simp [pulls, hpull, pulls_atEnd, List.replicate_succ]
  · obtain ⟨used, hne, hmoves⟩ := exists_moves_of_not_isEnd (Bool.eq_false_iff.2 h)
    have hlength : c.rest.length = used.length + c.scan.2.rest.length := by
      rw [hmoves.rest_eq, List.length_append]
    have hpos := List.length_pos_iff.2 hne
    obtain ⟨m, hm, hfirst, hlater⟩ := exists_pulls_end c.scan.2
    refine ⟨m + 1, by omega, ?_, fun k => ?_⟩
    · exact List.forall_mem_cons.2 ⟨Bool.eq_false_iff.2 h, hfirst⟩
    · have hnext := hlater k
      rw [hmoves.endAnswer_eq, hmoves.atEnd_eq] at hnext
      have hcons : ∀ n, pulls (n + 1) c =
          (c.scan.1 :: (pulls n c.scan.2).1, (pulls n c.scan.2).2) := fun n => rfl
      rw [Nat.add_right_comm, hcons, hcons, hnext]
      rfl
termination_by c.rest.length

/-- Whenever `pulls` answers the end of the text, it is `endAnswer`. -/
theorem eq_endAnswer_of_mem_pulls {answer : Except ScanError Token} {n : Nat}
    (h : answer ∈ (pulls n c).1) (hend : isEnd answer = true) : answer = c.endAnswer := by
  refine forall_mem_pulls (fun c' : Cursor => c'.endAnswer = c.endAnswer)
    (motive := fun answer => isEnd answer = true → answer = c.endAnswer) ?_ n rfl _ h hend
  intro c' hc'
  obtain ⟨used, hmoves⟩ := c'.exists_moves_snd_scan
  refine ⟨fun hend => ?_, hmoves.endAnswer_eq.trans hc'⟩
  rw [← hc']
  exact congrArg Prod.fst (scan_of_isEnd hend)

/-- The `TokenSource.tokens` of a text end with its end, and it is there only once. -/
theorem exists_front_of_tokens {ts : List Token} (h : tokens c = .ok ts) :
    ∃ front, ts = front ++ [⟨.endOfFile, c.atEnd.location⟩] ∧
      (∀ t ∈ front, t.isEnd = false) ∧ (ts.map Token.location).Pairwise Location.Before := by
  have hdrain : drain c = ⟨ts, none⟩ := drain_of_tokens h
  obtain ⟨front, last, rfl, hlast, hfront⟩ := exists_drain_eq_append hdrain
  obtain ⟨count, -, hpulls⟩ := exists_pulls_drain c
  have hmem : .ok last ∈ (pulls count c).1 := by simp [hpulls, hdrain]
  have hend : (.ok last : Except ScanError Token) = c.endAnswer :=
    eq_endAnswer_of_mem_pulls hmem hlast
  obtain rfl := Except.ok.inj hend
  refine ⟨front, rfl, hfront, ?_⟩
  have hpairwise := pairwise_before_drain c
  rwa [hdrain] at hpairwise

/-- **Asking a text for tokens comes to an end.** After any number of `TokenSource.pulls`,
errors among them, the cursor stands in the text, and each `scan` that does not answer the end
of the text (`isEnd`) moves it forward. So there are at most as many of these answers as
characters; then `endAnswer` is answered, always at the same place, and the cursor stays where
nothing is left. `TokenSource.tokens` is read by so many answers, the last of which is an error
or the end of the text; if it is the end, it is there once, and the tokens stand one behind the
other (`Location.Before`). -/
theorem pulls_come_to_end (text : String) :
    (∀ n, (pulls n (ofText text)).2.rest <:+ text.toList ∧
      (isEnd (pulls n (ofText text)).2.scan.1 = false →
        ∃ used, used ≠ [] ∧
          (pulls n (ofText text)).2.rest = used ++ (pulls n (ofText text)).2.scan.2.rest)) ∧
    (∃ m ≤ text.length, (∀ answer ∈ (pulls m (ofText text)).1, isEnd answer = false) ∧
      ∀ k, pulls (m + (k + 1)) (ofText text) =
        ((pulls m (ofText text)).1 ++
          List.replicate (k + 1) (.ok ⟨.endOfFile, Location.start.past text.toList⟩),
        ⟨[], Location.start.past text.toList⟩)) ∧
    (∃ count ≤ text.length + 1, (pulls count (ofText text)).1 =
      (drain (ofText text)).tokens.map .ok ++ (drain (ofText text)).error.toList.map .error) ∧
    ∀ ts, tokens (ofText text) = .ok ts →
      ∃ front, ts = front ++ [⟨.endOfFile, Location.start.past text.toList⟩] ∧
        (∀ t ∈ front, t.isEnd = false) ∧
        (ts.map Token.location).Pairwise Location.Before := by
  refine ⟨fun n => ⟨?_, fun h => ?_⟩, ?_, ?_, fun ts => exists_front_of_tokens⟩
  · obtain ⟨pre, hmoves⟩ := exists_moves_pulls text n
    exact ⟨pre, hmoves.rest_eq.symm⟩
  · obtain ⟨used, hne, hmoves⟩ := exists_moves_of_not_isEnd h
    exact ⟨used, hne, hmoves.rest_eq⟩
  · exact exists_pulls_end (ofText text)
  · exact exists_pulls_drain (ofText text)

end Cursor

end SyntaxExplorer
