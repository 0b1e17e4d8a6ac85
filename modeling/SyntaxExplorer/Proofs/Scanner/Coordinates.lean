import Mathlib.Data.List.DropRight
import SyntaxExplorer.Proofs.Scanner.Faults

/-!
# SyntaxExplorer.Proofs.Scanner.Coordinates

**What a text answers, and where.** However often a text is asked for a token, also
behind errors, the cursor stands somewhere in the text, at the line and the column that
are counted from its start (`Location.after`). What it answers there is said by
`Cursor.Reading`: it skips the longest layout that there is, and then it reads the
spelling of a lexeme, as far as that goes, or comes to the end of the text, or to a fault.

That the layout is the longest is a fact about all layouts that the text could begin with
(`Cursor.LongestLayout`). Skipping any of them first leads to the same place
(`skipLayout_of_leads`), so none of them goes further.
-/

namespace SyntaxExplorer

/-! ### Counting lines and columns -/

/-- The location behind some characters, counted: a line for each line feed, and a column
for each character behind the last one. -/
def Location.after (cs : List Char) : Location :=
  ⟨1 + cs.count '\n', 1 + (cs.rtakeWhile fun c => c != '\n').length⟩

/-- A location that is carried along (`Location.past`) is the one that is counted
(`Location.after`). -/
theorem Location.past_start (cs : List Char) : start.past cs = after cs := by
  induction cs using List.reverseRecOn with
  | nil => rfl
  | append_singleton cs c ih =>
      rw [past_append, ih, past_cons, past_nil]
      by_cases hc : c = '\n' <;> simp [step, after, hc, Nat.add_assoc]

namespace Cursor

/-! ### The longest layout -/

/-- The characters are layout, and `rest` follows. The last comment may be one that the
end of the text closes. -/
def Leads (cs rest : List Char) : Prop :=
  ∃ lead ending, IsLayout lead ∧ IsEnding ending ∧ (ending = [] ∨ rest = []) ∧
    cs = lead ++ ending

/-- The characters are layout, `rest` follows, and there is no longer layout that this
text begins with. -/
structure LongestLayout (cs rest : List Char) : Prop where
  leads : Leads cs rest
  longest : ∀ ds more, Leads ds more → ds ++ more = cs ++ rest → ds <+: cs

variable {cs ds rest more : List Char} {here opening : Location} {c b : Cursor}

theorem IsLayout.leads (h : IsLayout cs) (rest : List Char) : Leads cs rest :=
  ⟨cs, [], h, .inl rfl, .inl rfl, (List.append_nil cs).symm⟩

/-- Whatever layout `Leads` first, `skipLayout` comes to the same place. -/
theorem skipLayout_of_leads (h : Leads cs more) (here : Location) :
    skipLayout ⟨cs ++ more, here⟩ = skipLayout ⟨more, here.past cs⟩ := by
  obtain ⟨lead, ending, hlead, hending, hover, rfl⟩ := h
  rw [List.append_assoc, skipLayout_append hlead, Location.past_append]
  rcases hending with rfl | ⟨body, hbody, rfl⟩
  · rfl
  · -- The comment takes all of the text.
    obtain rfl : more = [] := hover.resolve_left (List.cons_ne_nil _ _)
    rw [List.append_nil, skipLayout_line, pastLine_of_not_mem hbody]
    rfl

/-- What `skipLayout` skips is the `LongestLayout`. -/
theorem longestLayout_of_skipLayout (h : c.skipLayout = .ok b) :
    ∃ lead, c.Moves lead b ∧ LongestLayout lead b.rest := by
  obtain ⟨-, lead, ending, hlead, hending, hmoves, hover⟩ := skipLayout_spec h
  refine ⟨_, hmoves, ⟨_, _, hlead, hending, hover, rfl⟩, ?_⟩
  intro ds more hds htext
  have hskip : skipLayout ⟨more, c.location.past ds⟩ = .ok b := by
    rw [← skipLayout_of_leads hds, htext, ← hmoves.rest_eq, h]
  obtain ⟨-, lead', ending', -, -, hmoves', -⟩ := skipLayout_spec hskip
  have hmore : more = lead' ++ ending' ++ b.rest := hmoves'.rest_eq
  rw [hmore, ← List.append_assoc] at htext
  exact ⟨_, List.append_cancel_right htext⟩

/-- Two places in a text are the same if they are at the same location. -/
theorem eq_of_past_eq (htext : cs ++ rest = ds ++ more) (h : here.past cs = here.past ds) :
    cs = ds := by
  have hnot : ∀ (front between : List Char),
      here.past front = here.past (front ++ between) → between = [] := by
    intro front between hpast
    by_contra hne
    rw [Location.past_append] at hpast
    exact (Location.before_past hne _).ne hpast
  rcases List.append_eq_append_iff.1 htext with ⟨between, rfl, -⟩ | ⟨between, rfl, -⟩
  · rw [hnot _ _ h, List.append_nil]
  · rw [hnot _ _ h.symm, List.append_nil]

/-- In front of a comment that is not closed, where `skipLayout` fails, stands the
`LongestLayout`. -/
theorem longestLayout_of_skipLayout_error (h : c.skipLayout = .error opening) :
    ∃ lead body, ¬ ['*', '/'] <:+: body ∧ c.Moves lead ⟨'/' :: '*' :: body, opening⟩ ∧
      LongestLayout lead ('/' :: '*' :: body) := by
  obtain ⟨lead, body, hlead, hbody, hmoves⟩ := skipLayout_error h
  refine ⟨lead, body, hbody, hmoves, hlead.leads _, ?_⟩
  intro ds more hds htext
  have hskip : skipLayout ⟨more, c.location.past ds⟩ = .error opening := by
    rw [← skipLayout_of_leads hds, htext, ← hmoves.rest_eq, h]
  obtain ⟨lead', body', -, -, hmoves'⟩ := skipLayout_error hskip
  have hmore : more = lead' ++ '/' :: '*' :: body' := hmoves'.rest_eq
  -- The comment that is not closed is the same one, since it is at the same location.
  have hopening : c.location.past (ds ++ lead') = c.location.past lead := by
    rw [Location.past_append, ← hmoves'.location_eq, ← hmoves.location_eq]
  rw [hmore, ← List.append_assoc] at htext
  exact ⟨lead', eq_of_past_eq htext hopening⟩

/-! ### One answer -/

/-- Where `pre` stands in front of the rest of a text, this is what is answered, and what
is left of the text then. -/
inductive Reading (pre : List Char) :
    List Char → Except ScanError Token → List Char → Prop
  /-- Behind layout stands the spelling of a lexeme, which does not go on. -/
  | token {lead word rest l} : LongestLayout lead (word ++ rest) → l.Spells word →
      l.EndsBefore rest →
      Reading pre (lead ++ (word ++ rest)) (.ok ⟨l, .after (pre ++ lead)⟩) rest
  /-- Nothing but layout is left. -/
  | endOfFile {lead} : LongestLayout lead [] →
      Reading pre lead (.ok ⟨.endOfFile, .after (pre ++ lead)⟩) []
  /-- Behind layout stands what is no spelling, and it is used up. -/
  | error {lead used rest fault} : LongestLayout lead (used ++ rest) → fault.Arises used rest →
      Reading pre (lead ++ (used ++ rest))
        (.error ⟨fault, .after (pre ++ lead ++ if fault.isEscape then used else [])⟩) rest

/-- A cursor that `Moves` over characters stands where these are counted as well
(`Location.after`). -/
theorem Moves.location_eq_after {pre : List Char} (h : c.Moves cs b)
    (hc : c.location = .after pre) : b.location = .after (pre ++ cs) := by
  rw [h.location_eq, hc, ← Location.past_start, ← Location.past_start, Location.past_append]

/-- What is answered behind the `LongestLayout` is a `Reading`. -/
theorem reading_token {pre lead : List Char} (hlocation : b.location = .after (pre ++ lead))
    (hlongest : LongestLayout lead b.rest) (hstop : ¬ OpensLayout b.rest) :
    Reading pre (lead ++ b.rest) b.token.1 b.token.2.rest := by
  cases htoken : b.token with
  | mk answer c' =>
  cases answer with
  | ok t =>
      rcases token_cases htoken with ⟨hrest, rfl, rfl⟩ | ⟨word, hat, hword, hmoves, hends⟩
      · rw [hrest] at hlongest ⊢
        rw [hlocation, List.append_nil]
        exact .endOfFile hlongest
      · obtain ⟨l, here⟩ := t
        obtain rfl : here = .after (pre ++ lead) := hat.trans hlocation
        rw [hmoves.rest_eq] at hlongest ⊢
        exact .token hlongest hword (hends hstop)
  | error e =>
      obtain ⟨used, hmoves, hfault, hat⟩ := token_error htoken hstop
      obtain ⟨fault, here⟩ := e
      obtain rfl : here = .after (pre ++ lead ++ if fault.isEscape then used else []) := by
        refine hat.trans ?_
        cases fault.isEscape with
        | true => exact hmoves.location_eq_after hlocation
        | false => simpa using hlocation
      rw [hmoves.rest_eq] at hlongest ⊢
      exact .error hlongest hfault

/-- What is answered where `pre` stands in front. -/
theorem reading_scan {pre : List Char} (hlocation : c.location = .after pre) :
    Reading pre c.rest c.scan.1 c.scan.2.rest := by
  cases hskip : c.skipLayout with
  | error opening =>
      obtain ⟨lead, body, hbody, hmoves, hlongest⟩ := longestLayout_of_skipLayout_error hskip
      have hscan : c.scan = (.error ⟨.unterminatedComment, opening⟩, c.atEnd) := by
        rw [scan, hskip]
      have hopening : opening = .after (pre ++ lead) := hmoves.location_eq_after hlocation
      rw [← List.append_nil ('/' :: '*' :: body)] at hlongest
      have hreading : Reading pre _ _ _ := .error hlongest (.unterminatedComment hbody)
      rw [hscan, hmoves.rest_eq, hopening]
      simpa [ScanFault.isEscape, atEnd] using hreading
  | ok b =>
      obtain ⟨hstop, -⟩ := skipLayout_spec hskip
      obtain ⟨lead, hmoves, hlongest⟩ := longestLayout_of_skipLayout hskip
      have hscan : c.scan = b.token := by rw [scan, hskip]
      rw [hscan, hmoves.rest_eq]
      exact reading_token (hmoves.location_eq_after hlocation) hlongest hstop

/-! ### All answers -/

/-- However often a text is asked for a token (`TokenSource.pulls`), the cursor stands in the
text. -/
theorem exists_moves_pulls (text : String) (n : Nat) :
    ∃ pre, (ofText text).Moves pre (TokenSource.pulls n (ofText text)).2 := by
  refine TokenSource.pulls_keep (fun c : Cursor => ∃ pre, (ofText text).Moves pre c) ?_ n
    ⟨[], .refl _⟩
  rintro c ⟨pre, hc⟩
  obtain ⟨cs, hcs⟩ := c.exists_moves_snd_scan
  exact ⟨pre ++ cs, hc.trans hcs⟩

/-- **What a text answers, and where.** After any number of answers, errors among them, the
cursor stands behind some characters of the text, at the line and the column that are
counted over them, and what it answers there is said by `Reading`. -/
theorem reading_pulls (text : String) (n : Nat) :
    ∃ pre, text.toList = pre ++ (TokenSource.pulls n (ofText text)).2.rest ∧
      (TokenSource.pulls n (ofText text)).2.location = .after pre ∧
      Reading pre (TokenSource.pulls n (ofText text)).2.rest
        (TokenSource.pulls n (ofText text)).2.scan.1
        (TokenSource.pulls n (ofText text)).2.scan.2.rest := by
  obtain ⟨pre, hmoves⟩ := exists_moves_pulls text n
  have hlocation : (TokenSource.pulls n (ofText text)).2.location = .after pre := by
    rw [hmoves.location_eq, ← Location.past_start]
    rfl
  exact ⟨pre, hmoves.rest_eq, hlocation, reading_scan hlocation⟩

end Cursor

end SyntaxExplorer
