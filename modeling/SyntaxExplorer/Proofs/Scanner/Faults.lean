import SyntaxExplorer.Proofs.Scanner.Spelling
import SyntaxExplorer.Proofs.Token.Source

/-!
# SyntaxExplorer.Proofs.Scanner.Faults

**How a text fails to go on with a token.** What stands there is no spelling of a lexeme,
and the fault says why (`ScanFault.Arises`): a character that nothing begins with, a
number that is too great, a comment or a string literal that is not closed, or an
escape that there is not. The characters that make the fault are used up, and the error
is located in front of them, unless it is about an escape, which it is located behind
(`scan_error`).

Scanning can go on after an error, and whatever is answered then stands in the text as
well (`in_of_mem_pulls`).
-/

namespace SyntaxExplorer

namespace ScanFault

/-- Behind some contents, the string literal is cut off by the characters, where the
text goes on with `rest`. -/
inductive CutsOff : ScanFault → List Char → List Char → Prop
  | unterminatedString : CutsOff unterminatedString [] []
  | endInsideString : CutsOff endInsideString ['\\'] []
  | unknownEscape {c rest} : unescape? c = none → CutsOff (unknownEscape c) ['\\', c] rest

/-- The characters are no spelling of a lexeme, for this reason, where the text goes on
with `rest`. -/
inductive Arises : ScanFault → List Char → List Char → Prop
  | unexpectedCharacter {c rest} : Cursor.isBlank c = false → c ≠ '"' → c.isDigit = false →
      isWordStart c = false → Symbol.at? (c :: rest) = none →
      Arises (unexpectedCharacter c) [c] rest
  | integerOutOfRange {digits rest : List Char} : digits ≠ [] →
      (∀ c ∈ digits, c.isDigit = true) → (∀ c ∈ rest.head?, c.isDigit = false) →
      numberBound ≤ Nat.ofDigitChars 10 digits 0 →
      Arises (integerOutOfRange (String.ofList digits)) digits rest
  | inString {fault contents body cut rest} : SpellsContents contents body →
      CutsOff fault cut rest → Arises fault ('"' :: (body ++ cut)) rest
  | unterminatedComment {body} : ¬ ['*', '/'] <:+: body →
      Arises unterminatedComment ('/' :: '*' :: body) []

/-- A fault that `Arises` uses up some characters. -/
theorem Arises.ne_nil {fault : ScanFault} {used rest : List Char} (h : fault.Arises used rest) :
    used ≠ [] := by
  cases h with
  | integerOutOfRange hne => exact hne
  | unexpectedCharacter | inString | unterminatedComment => exact List.cons_ne_nil _ _

/-- Is the fault one of an escape? Those are located behind the characters that they use up. -/
def isEscape : ScanFault → Bool
  | endInsideString => true
  | unknownEscape _ => true
  | _ => false

/-- The fault stands in the text. -/
def In (text : List Char) (fault : ScanFault) : Prop :=
  ∃ used rest, fault.Arises used rest ∧ used ++ rest <:+ text

end ScanFault

namespace Cursor

variable {c c' : Cursor} {e : ScanError}

/-! ### What an error says -/

/-- Where `stringBody` fails, there are contents up to where the literal is cut off
(`CutsOff`). -/
theorem stringBody_error {opening here : Location} {read cs : List Char}
    (h : stringBody opening here read cs = (.error e, c)) :
    ∃ contents body cut, SpellsContents contents body ∧ e.fault.CutsOff cut c.rest ∧
      Moves ⟨cs, here⟩ (body ++ cut) c ∧
      e.location = if e.fault.isEscape then c.location else opening := by
  fun_induction stringBody opening here read cs with
  | case1 here read =>
      cases h
      exact ⟨[], [], [], .nil, .unterminatedString, .refl _, rfl⟩
  | case2 => cases h
  | case3 here read =>
      cases h
      exact ⟨[], [], _, .nil, .endInsideString, .step .., rfl⟩
  | case4 here read c cs d hd ih =>
      obtain ⟨contents, body, cut, hbody, hcut, hmoves, hlocation⟩ := ih h
      refine ⟨_, _, cut, .cons (spellsChar_of_unescape? hd) hbody, hcut, ?_, hlocation⟩
      exact ((Moves.step ..).trans (.step ..)).trans hmoves
  | case5 here read c cs hnone =>
      cases h
      exact ⟨[], [], _, .nil, .unknownEscape hnone, (Moves.step ..).trans (.step ..), rfl⟩
  | case6 here read c cs hquote hend hescape ih =>
      obtain ⟨contents, body, cut, hbody, hcut, hmoves, hlocation⟩ := ih h
      have hpiece : SpellsChar c [c] := .itself hquote (ne_backslash hend hescape)
      exact ⟨_, _, cut, .cons hpiece hbody, hcut, (Moves.step ..).trans hmoves, hlocation⟩

/-- Where `Cursor.number` fails, the number is too great (`numberBound`). -/
theorem number_error (h : c.number.1 = .error e) :
    e = ⟨.integerOutOfRange (String.ofList (c.rest.takeWhile Char.isDigit)), c.location⟩ ∧
      numberBound ≤ Nat.ofDigitChars 10 (c.rest.takeWhile Char.isDigit) 0 := by
  simp only [number, apply_ite Prod.fst] at h
  split at h
  · cases h
  · rename_i hvalue
    cases h
    exact ⟨rfl, Nat.le_of_not_lt hvalue⟩

/-- Where no layout stands and `Cursor.token` fails, a fault `Arises`. -/
theorem token_error (h : c.token = (.error e, c')) (hlayout : ¬ OpensLayout c.rest) :
    ∃ used, c.Moves used c' ∧ e.fault.Arises used c'.rest ∧
      e.location = if e.fault.isEscape then c'.location else c.location := by
  obtain ⟨rest, here⟩ := c
  unfold token at h
  split at h
  · cases h
  · rename_i d cs hrest
    obtain rfl : rest = d :: cs := hrest
    split at h
    · rename_i hquote
      subst hquote
      cases hbody : stringBody here (here.step '"') [] cs with
      | mk answer c'' =>
      rw [hbody] at h
      cases answer with
      | ok contents => cases h
      | error e' =>
          cases h
          obtain ⟨contents, body, cut, hspells, hcut, hmoves, hlocation⟩ := stringBody_error hbody
          exact ⟨'"' :: (body ++ cut), (Moves.step ..).trans hmoves, .inString hspells hcut,
            hlocation⟩
    · rename_i hquote
      split at h
      · rename_i hdigit
        have hne : (d :: cs).takeWhile Char.isDigit ≠ [] := by simp [hdigit]
        have hrun : (number ⟨d :: cs, here⟩).2 = c' := congrArg Prod.snd h
        obtain ⟨rfl, hvalue⟩ := number_error (congrArg Prod.fst h)
        rw [snd_number] at hrun
        subst hrun
        exact ⟨_, moves_run .., .integerOutOfRange hne (List.all_eq_true.1 List.all_takeWhile)
          (fun _ => head?_dropWhile) hvalue, rfl⟩
      · rename_i hdigit
        split at h
        · cases h
        · rename_i hword
          split at h
          · cases h
          · rename_i hsymbol
            cases h
            have hblank : isBlank d = false :=
              Bool.eq_false_iff.2 fun hblank => hlayout (.inl ⟨d, rfl, hblank⟩)
            exact ⟨[d], .step .., .unexpectedCharacter hblank hquote (Bool.eq_false_iff.2 hdigit)
              (Bool.eq_false_iff.2 hword) hsymbol, rfl⟩

/-- **Where `scan` fails, a fault `Arises` behind layout**, and its characters are used up. -/
theorem scan_error (h : c.scan = (.error e, c')) :
    ∃ lead used, IsLayout lead ∧ c.Moves (lead ++ used) c' ∧ e.fault.Arises used c'.rest ∧
      e.location = if e.fault.isEscape then c'.location else c.location.past lead := by
  unfold scan at h
  split at h
  · rename_i opening hopening
    obtain ⟨lead, body, hlead, hbody, hmoves⟩ := skipLayout_error hopening
    cases h
    refine ⟨lead, _, hlead, hmoves.trans ⟨(List.append_nil _).symm, ?_⟩,
      .unterminatedComment hbody, hmoves.location_eq⟩
    exact hmoves.past_rest.symm
  · rename_i b hb
    obtain ⟨hstop, lead, ending, hlead, -, hmoves, hover⟩ := skipLayout_spec hb
    obtain ⟨used, hused, hfault, hlocation⟩ := token_error h hstop
    have hne : b.rest ≠ [] := by
      intro hnil
      rw [token_of_rest_nil hnil] at h
      cases h
    obtain rfl : ending = [] := hover.resolve_right hne
    rw [List.append_nil] at hmoves
    rw [hmoves.location_eq] at hlocation
    exact ⟨lead, used, hlead, hmoves.trans hused, hfault, hlocation⟩

/-- Whatever `scan` answers, the cursor moves over what is read (`Moves`). -/
theorem exists_moves_snd_scan (c : Cursor) : ∃ cs, c.Moves cs c.scan.2 := by
  cases h : c.scan with
  | mk answer c' =>
  cases answer with
  | ok t => exact exists_moves_scan h
  | error e =>
      obtain ⟨lead, used, -, hmoves, -⟩ := scan_error h
      exact ⟨_, hmoves⟩

/-- Whatever `scan` answers, what is left of the text is its end. -/
theorem rest_suffix_scan (c : Cursor) : c.scan.2.rest <:+ c.rest := by
  obtain ⟨cs, hcs⟩ := c.exists_moves_snd_scan
  exact ⟨cs, hcs.rest_eq.symm⟩

/-! ### All answers -/

/-- However often a text is asked for a token (`TokenSource.pulls`), the faults stand in the
text. -/
theorem in_of_mem_pulls {text : String} {n : Nat}
    (h : .error e ∈ (TokenSource.pulls n (ofText text)).1) : e.fault.In text.toList := by
  refine TokenSource.forall_mem_pulls (fun c : Cursor => c.rest <:+ text.toList)
    (motive := fun answer => ∀ e, answer = .error e → e.fault.In text.toList) ?_ n
    (List.suffix_refl _) _ h e rfl
  intro c hc
  refine ⟨?_, (rest_suffix_scan c).trans hc⟩
  intro e he
  obtain ⟨lead, used, -, hmoves, hfault, -⟩ := scan_error (Prod.ext he rfl)
  refine ⟨used, _, hfault, List.IsSuffix.trans ⟨lead, ?_⟩ hc⟩
  rw [hmoves.rest_eq, List.append_assoc]

end Cursor

end SyntaxExplorer
