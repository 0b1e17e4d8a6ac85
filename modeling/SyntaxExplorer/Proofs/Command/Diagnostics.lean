import Mathlib.Data.List.Basic
import SyntaxExplorer.Command.Run
import SyntaxExplorer.Proofs.Parser.Scanning
import SyntaxExplorer.Proofs.Scanner.Faults
import SyntaxExplorer.Proofs.Scanner.Tokens
import SyntaxExplorer.Proofs.Text.Readback

/-!
# SyntaxExplorer.Proofs.Command.Diagnostics

**Which diagnostics are one line.** What stands in a message comes from the text, and may be
anything there. A number, a name and a symbol have no line feeds, the contents of a string
literal are escaped, and a line feed is no unexpected character, since it is layout. But
the character behind a backslash is written down as it is. So a message is one line, unless
it is about an escaped line feed (`oneLine_diagnostics_iff`).
-/

namespace SyntaxExplorer

open Text

/-! ### The wording of places and lexemes -/

theorem Location.oneLine_text (here : Location) : OneLine here.text := by
  have hline : OneLine ("line " ++ toString here.line) :=
    oneLine_append.2 ⟨by decide, oneLine_toString here.line⟩
  have hcolumn : OneLine (toString here.column) := oneLine_toString here.column
  exact oneLine_append.2 ⟨oneLine_append.2 ⟨hline, by decide⟩, hcolumn⟩

theorem oneLine_of_isName {name : String} (h : IsName name) : OneLine name := by
  intro hmem
  cases Cursor.isWordPart_of_isName h _ hmem

/-- The wording of what can be read is one line, with any `Escaping` of string literals. -/
theorem Lexeme.oneLine_textWith {escape : Char → String}
    (hescape : Escaping fun c => (escape c).toList) {l : Lexeme} (h : l.WellFormed) :
    OneLine (l.textWith escape) := by
  cases l with
  | number value =>
      obtain ⟨v, -, rfl⟩ := h
      exact oneLine_append.2 ⟨by decide, oneLine_toString v⟩
  | identifier name =>
      have hname : OneLine ("identifier '" ++ name) :=
        oneLine_append.2 ⟨by decide, oneLine_of_isName h⟩
      exact oneLine_append.2 ⟨hname, by decide⟩
  | stringLiteral contents =>
      exact oneLine_append.2 ⟨by decide, hescape.oneLine_quotedWith contents⟩
  | keyword k =>
      show OneLine ("'" ++ k.spelling ++ "'")
      cases k <;> decide
  | symbol s =>
      show OneLine ("'" ++ s.spelling ++ "'")
      cases s <;> decide
  | endOfFile =>
      show OneLine "end of file"
      decide

theorem Lexeme.oneLine_text {l : Lexeme} (h : l.WellFormed) : OneLine l.text :=
  oneLine_textWith escaping_escapeChar h

theorem Expectation.oneLine_text (wanted : Expectation) : OneLine wanted.text := by
  cases wanted with
  | openBraceOf kind => cases kind <;> decide
  | _ => decide

/-! ### The wording of errors -/

/-- Of the faults `In` a text, only `unknownEscape '\n'` has a message that is not `OneLine`. -/
theorem ScanFault.oneLine_message_iff {text : List Char} {fault : ScanFault}
    (h : fault.In text) : OneLine fault.message ↔ fault ≠ unknownEscape '\n' := by
  obtain ⟨used, rest, hfault, -⟩ := h
  cases hfault with
  | @unexpectedCharacter c _ hblank =>
      have hc : c ≠ '\n' := by
        rintro rfl
        cases hblank
      have hmessage : OneLine (unexpectedCharacter c).message :=
        oneLine_append.2 ⟨oneLine_append.2 ⟨by decide, oneLine_singleton.2 hc⟩, by decide⟩
      exact iff_of_true hmessage (by simp)
  | integerOutOfRange _ hdigits =>
      have hused : '\n' ∉ used := fun hmem => absurd (hdigits _ hmem) (by decide)
      have hmessage : OneLine (integerOutOfRange (String.ofList used)).message :=
        oneLine_append.2 ⟨by decide, oneLine_ofList.2 hused⟩
      exact iff_of_true hmessage (by simp)
  | inString _ hcut =>
      cases hcut with
      | unterminatedString | endInsideString => exact iff_of_true (by decide) (by simp)
      | @unknownEscape c =>
          have hwords : OneLine "Unknown escape sequence: \\" := by decide
          show OneLine ("Unknown escape sequence: \\" ++ String.singleton c) ↔ _
          rw [oneLine_append, and_iff_right hwords, oneLine_singleton]
          simp
  | unterminatedComment => exact iff_of_true (by decide) (by simp)

/-- Where `unknownEscape '\n'` is `In` a text, a backslash and a line feed stand there. -/
theorem ScanFault.infix_of_in {text : List Char} (h : (unknownEscape '\n').In text) :
    ['\\', '\n'] <:+: text := by
  obtain ⟨used, rest, hfault, hsuffix⟩ := h
  cases hfault with
  | @inString _ _ body _ _ _ hcut =>
      cases hcut
      exact List.IsInfix.trans ⟨'"' :: body, rest, by simp⟩ hsuffix.isInfix

/-- The place that stands in front of a message adds no line. -/
theorem oneLine_located {words message : String} (hwords : OneLine words) (here : Location) :
    OneLine (words ++ here.text ++ ": " ++ message) ↔ OneLine message := by
  have hcolon : OneLine ": " := by decide
  simp only [oneLine_append, hwords, here.oneLine_text, hcolon, true_and]

theorem ScanError.oneLine_text_iff {text : List Char} {e : ScanError} (h : e.fault.In text) :
    OneLine e.text ↔ e.fault ≠ .unknownEscape '\n' := by
  rw [← ScanFault.oneLine_message_iff h]
  exact oneLine_located (by decide) e.location

/-- The error can be the answer to the text: a lexeme that it names is `WellFormed`, and a
fault of scanning is `ScanFault.In` the text. -/
def SyntaxFault.In (text : List Char) : SyntaxFault → Prop
  | unexpected found _ => found.WellFormed
  | tooDeep => True
  | scan fault => fault.In text

theorem SyntaxFault.oneLine_message_iff {text : List Char} {fault : SyntaxFault}
    (h : fault.In text) : OneLine fault.message ↔ fault ≠ .scan (.unknownEscape '\n') := by
  cases fault with
  | unexpected found wanted =>
      have hfound : OneLine ("unexpected " ++ found.text) :=
        oneLine_append.2 ⟨by decide, Lexeme.oneLine_text h⟩
      have hmessage : OneLine (unexpected found wanted).message :=
        oneLine_append.2 ⟨oneLine_append.2 ⟨hfound, by decide⟩, wanted.oneLine_text⟩
      exact iff_of_true hmessage (by simp)
  | tooDeep =>
      have hlimit : OneLine tooDeep.message :=
        oneLine_append.2 ⟨oneLine_append.2 ⟨by decide, oneLine_toString maxNesting⟩, by decide⟩
      exact iff_of_true hlimit (by simp)
  | scan fault =>
      show OneLine fault.message ↔ _
      rw [ScanFault.oneLine_message_iff h]
      simp

theorem SyntaxError.oneLine_text_iff {text : List Char} {e : SyntaxError} (h : e.fault.In text) :
    OneLine e.text ↔ e.fault ≠ .scan (.unknownEscape '\n') := by
  rw [← SyntaxFault.oneLine_message_iff h]
  exact oneLine_located (by decide) e.location

/-! ### What is reported of a text -/

/-- The error that ends a `drain` is `In` the text. -/
theorem in_of_drain {text : String} {e : ScanError}
    (h : (TokenSource.drain (Cursor.ofText text)).error = some e) : e.fault.In text.toList := by
  obtain ⟨n, hn⟩ := TokenSource.exists_mem_pulls_of_drain h
  exact Cursor.in_of_mem_pulls hn

/-- The error of a `parse` is `In` the text. -/
theorem in_of_parse {text : String} {e : SyntaxError}
    (h : (parse (Cursor.ofText text)).1 = .error e) : e.fault.In text.toList := by
  cases hdrain : TokenSource.drain (Cursor.ofText text) with
  | mk ts error =>
  rcases parse_cases hdrain with ⟨v, q, t, rest, -, rfl, hanswer⟩ | ⟨v, q, e', -, -, rfl, hanswer⟩
  · have hmem : t ∈ (TokenSource.drain (Cursor.ofText text)).tokens := by simp [hdrain]
    obtain ⟨-, hwell⟩ := Cursor.forall_mem_drain (Cursor.behind_ofText text) t hmem
    rw [h] at hanswer
    cases hanswer with
    | refused hreject =>
        cases Progress.refusal_of_step hreject with
        | unexpected wanted => exact hwell
        | tooDeep => trivial
  · rw [h] at hanswer
    cases hanswer
    exact in_of_drain (by rw [hdrain])

/-- **A diagnostic is one line, unless it is about an escaped line feed.** A parse that
succeeds reports nothing, and one that fails reports one message, which is all that the
command writes to its error output, behind `Error: `. So it is with the listing of the
tokens. The message is one line, unless the error is that a line feed is escaped, and so is
every error that scanning can answer, however often it goes on behind one. Where no
backslash stands before a line feed, there is no such error. -/
theorem oneLine_diagnostics_iff (text : String) :
    let source := Cursor.ofText text
    (∀ program, (parse source).1 = .ok program → ∀ diagnostics,
      parseReporting source diagnostics = (some program, diagnostics)) ∧
    (∀ e, (parse source).1 = .error e →
      (∀ diagnostics, parseReporting source diagnostics = (none, diagnostics ++ [e.text])) ∧
      (∀ options : Command.Options, options.tokens = false →
        Command.onText options text = ⟨1, "", "Error: " ++ e.text ++ "\n"⟩) ∧
      (OneLine e.text ↔ e.fault ≠ .scan (.unknownEscape '\n'))) ∧
    (∀ listing e, tokenListing source = (listing, some e) →
      (∀ options : Command.Options, options.tokens = true → Command.onText options text =
        ⟨1, listing, "Error: " ++ (SyntaxError.ofScanError e).text ++ "\n"⟩) ∧
      (OneLine (SyntaxError.ofScanError e).text ↔ e.fault ≠ .unknownEscape '\n')) ∧
    (∀ n e, .error e ∈ (TokenSource.pulls n source).1 →
      (OneLine e.text ↔ e.fault ≠ .unknownEscape '\n')) ∧
    (¬ ['\\', '\n'] <:+: text.toList →
      (∀ e, (parse source).1 = .error e → OneLine e.text) ∧
      ∀ n e, .error e ∈ (TokenSource.pulls n source).1 → OneLine e.text) := by
  intro source
  refine ⟨?_, ?_, ?_, ?_, ?_⟩
  · intro program hparse diagnostics
    rw [parseReporting, hparse]
  · intro e hparse
    refine ⟨?_, ?_, SyntaxError.oneLine_text_iff (in_of_parse hparse)⟩
    · intro diagnostics
      rw [parseReporting, hparse]
    · intro options htokens
      rw [Command.onText, htokens]
      simp only [Bool.false_eq_true, if_false]
      rw [hparse]
      rfl
  · intro listing e hlisting
    have hfault : (SyntaxError.ofScanError e).fault.In text.toList :=
      in_of_drain (congrArg Prod.snd hlisting)
    refine ⟨?_, ?_⟩
    · intro options htokens
      rw [Command.onText, if_pos htokens, Command.listTokens, hlisting]
      rfl
    · rw [SyntaxError.oneLine_text_iff hfault]
      simp [SyntaxError.ofScanError]
  · intro n e he
    exact ScanError.oneLine_text_iff (Cursor.in_of_mem_pulls he)
  · intro hescape
    refine ⟨?_, ?_⟩
    · intro e hparse
      have hfault := in_of_parse hparse
      rw [SyntaxError.oneLine_text_iff hfault]
      intro heq
      rw [heq] at hfault
      exact hescape (ScanFault.infix_of_in hfault)
    · intro n e he
      have hfault := Cursor.in_of_mem_pulls he
      rw [ScanError.oneLine_text_iff hfault]
      intro heq
      rw [heq] at hfault
      exact hescape (ScanFault.infix_of_in hfault)

/-- A line feed in a string literal is escaped in the message that names the literal. -/
theorem oneLine_diagnostics_of_literal :
    ∃ e, (parse (Cursor.ofText "\"a\nb\"")).1 = .error e ∧
      e.text =
        "syntax error at line 1, column 1: unexpected string literal \"a\\nb\", expected type" ∧
      parseReporting (Cursor.ofText "\"a\nb\"") [] = (none, [e.text]) ∧ OneLine e.text := by
  have hparse : (parse (Cursor.ofText "\"a\nb\"")).1 =
      .error ⟨.unexpected (.stringLiteral "a\nb") .type, ⟨1, 1⟩⟩ := by decide +kernel
  obtain ⟨hreport, -, hline⟩ := (oneLine_diagnostics_iff "\"a\nb\"").2.1 _ hparse
  exact ⟨_, hparse, by decide +kernel, hreport [], hline.2 (by decide)⟩

/-- Behind a quote, a backslash and a line feed make an error of two lines, and so are the
message of the parse and what the command writes, be it asked for the tokens or not. -/
theorem not_oneLine_of_escaped_lineFeed :
    ∃ e, (TokenSource.pull (Cursor.ofText "\"\\\n")).1 = .error e ∧ ¬ OneLine e.text ∧
      parseReporting (Cursor.ofText "\"\\\n") [] =
        (none, ["syntax error at line 2, column 1: Unknown escape sequence: \\\n"]) ∧
      ∀ options, (Command.onText options "\"\\\n").stderr =
        "Error: syntax error at line 2, column 1: Unknown escape sequence: \\\n\n" := by
  have hparse : (parse (Cursor.ofText "\"\\\n")).1 =
      .error ⟨.scan (.unknownEscape '\n'), ⟨2, 1⟩⟩ := by decide +kernel
  refine ⟨⟨.unknownEscape '\n', ⟨2, 1⟩⟩, by decide +kernel, by decide +kernel,
    by decide +kernel, ?_⟩
  intro options
  rw [Command.onText]
  split
  · decide +kernel
  · rw [hparse]
    show (Command.Outcome.failure ""
      (SyntaxError.text ⟨.scan (.unknownEscape '\n'), ⟨2, 1⟩⟩)).stderr = _
    decide +kernel

end SyntaxExplorer
