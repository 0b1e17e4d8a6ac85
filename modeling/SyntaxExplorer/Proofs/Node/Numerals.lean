import SyntaxExplorer.Proofs.Node.Locations
import SyntaxExplorer.Proofs.Scanner.Coordinates
import SyntaxExplorer.Proofs.Text.Decimal

/-!
# SyntaxExplorer.Proofs.Node.Numerals

**Numerals of any length** (`numerals_of_any_length`). Where a token begins with a digit,
the whole run of digits is read, and its value decides: a number that fits is the token,
and any other one is an error, however many zeros stand in front (`scan_digits`). A node
made of the token is called by its value, so it is the run without these zeros, and two
numerals with the same value make nodes that look alike.
-/

namespace SyntaxExplorer

open Text

/-- The greatest number below `numberBound`. -/
theorem lt_numberBound_iff (value : Nat) : value < numberBound ↔ value ≤ 2 ^ 63 - 1 := by
  have hbound : numberBound = 2 ^ 63 := rfl
  omega

namespace Cursor

variable {digits rest : List Char}

/-- `scan` reads all digits that stand together, and their `decimalValue` decides. -/
theorem scan_digits (hne : digits ≠ []) (hdigits : ∀ c ∈ digits, c.isDigit = true)
    (hrest : ∀ c ∈ rest.head?, c.isDigit = false) (here : Location) :
    scan ⟨digits ++ rest, here⟩ =
      (if decimalValue digits ≤ 2 ^ 63 - 1 then .ok ⟨.number (decimalValue digits), here⟩
        else .error ⟨.integerOutOfRange (String.ofList digits), here⟩,
      ⟨rest, here.past digits⟩) := by
  have hrun := run_append hdigits hrest here
  obtain ⟨d, ds, rfl⟩ := List.exists_cons_of_ne_nil hne
  rw [List.cons_append, scan_digit (hdigits d List.mem_cons_self), number, ← List.cons_append,
    hrun]
  simp only [ofDigitChars_eq_decimalValue, lt_numberBound_iff]
  split <;> rfl

/-- The `TokenSource.tokens` of a numeral are its number and nothing else. -/
theorem tokens_digits (hne : digits ≠ []) (hdigits : ∀ c ∈ digits, c.isDigit = true)
    (hvalue : decimalValue digits ≤ 2 ^ 63 - 1) :
    TokenSource.tokens (ofText (String.ofList digits)) =
      .ok [⟨.number (decimalValue digits), .start⟩,
        ⟨.endOfFile, Location.start.past digits⟩] := by
  have hscan : scan ⟨digits ++ [], .start⟩ = _ := scan_digits hne hdigits (by simp) .start
  rw [if_pos hvalue, List.append_nil] at hscan
  have hend : scan ⟨[], Location.start.past digits⟩ = _ := scan_ending (.inl rfl) _
  rw [TokenSource.tokens, ofText, String.toList_ofList, TokenSource.drain_of_token hscan rfl,
    TokenSource.drain_of_end hend rfl]
  rfl

end Cursor

/-- The node of a value (`Expr.ofValue`) is called by any numeral of the value `withoutZeros`. -/
theorem ofValue_decimalValue {digits : List Char} (hdigits : ∀ c ∈ digits, c.isDigit = true)
    (here : Location) :
    Expr.ofValue (decimalValue digits) here =
      .number (String.ofList (withoutZeros digits)) here := by
  rw [Expr.ofValue, ← toDigits_decimalValue hdigits, ← Nat.toString_eq_ofList_toDigits]
  rfl

/-- A number node of a program that `parse` reads stands at digits, and is called by them
`withoutZeros`. -/
theorem numeral_of_parse {text : String} {p : Program}
    (h : (parse (Cursor.ofText text)).1 = .ok p) {digits pre rest : List Char}
    (hdigits : ∀ c ∈ digits, c.isDigit = true) (hrest : ∀ c ∈ rest.head?, c.isDigit = false)
    (htext : text.toList = pre ++ (digits ++ rest)) {numeral : String} {depth : Nat}
    (hnode : (.expr (.number numeral (Location.start.past pre)), depth) ∈ p.nodes) :
    numeral = String.ofList (withoutZeros digits) := by
  obtain ⟨ts, last, -, hts, hanchor, -⟩ := exists_tokens_of_parse h
  obtain ⟨⟨pre', ⟨rest', hsplit, hlocation, hheads⟩, -⟩, -⟩ := hts _ (hanchor _ hnode)
  -- The token of the node is at its location, and there the digits stand.
  have hpre : pre = pre' := Cursor.eq_of_past_eq (htext.symm.trans hsplit) hlocation
  subst hpre
  obtain rfl : digits ++ rest = rest' := List.append_cancel_left (htext.symm.trans hsplit)
  obtain ⟨-, hvalue⟩ := hheads
  rw [takeWhile_run hdigits hrest] at hvalue
  have hnumeral : Nat.ofDigitChars 10 numeral.toList 0 = decimalValue digits :=
    (Int.ofNat.inj hvalue).trans (ofDigitChars_eq_decimalValue digits)
  have hwell : IsNumeral numeral := wellFormed_of_mem_nodes h _ hnode
  obtain ⟨-, hwritten⟩ := (isNumeral_iff numeral).1 hwell
  rw [hwritten, hnumeral, ← toDigits_decimalValue hdigits, Nat.toString_eq_ofList_toDigits]

/-- **Numerals of any length.** Where a token begins with digits, all digits that stand
together are used up. They are the number that they denote if it is at most `2 ^ 63 - 1`,
and otherwise an error at the first of them. Wherever a program goes on with that number,
it goes on behind a node that is called by the digits without the zeros in front, and a
number node of a program that is read is called so by the digits where it stands. What it
is called is read as the same number again, and of two numerals it is the same if and only
if they denote the same number. -/
theorem numerals_of_any_length {digits : List Char} (hne : digits ≠ [])
    (hdigits : ∀ c ∈ digits, c.isDigit = true) :
    (∀ lead rest here, Cursor.IsLayout lead → (∀ c ∈ rest.head?, c.isDigit = false) →
      TokenSource.pull (⟨lead ++ (digits ++ rest), here⟩ : Cursor) =
        (if decimalValue digits ≤ 2 ^ 63 - 1
          then .ok ⟨.number (decimalValue digits), here.past lead⟩
          else .error ⟨.integerOutOfRange (String.ofList digits), here.past lead⟩,
        ⟨rest, here.past (lead ++ digits)⟩)) ∧
    (∀ limit (p q : Progress) here,
      p.step limit ⟨.number (decimalValue digits), here⟩ = .shift q →
      ∃ e site, q.stage =
        .operator e (.number (String.ofList (withoutZeros digits)) here) site) ∧
    (∀ (text : String) pre rest p numeral depth, text.toList = pre ++ (digits ++ rest) →
      (∀ c ∈ rest.head?, c.isDigit = false) → (parse (Cursor.ofText text)).1 = .ok p →
      (.expr (.number numeral (Location.start.past pre)), depth) ∈ p.nodes →
      numeral = String.ofList (withoutZeros digits)) ∧
    (decimalValue digits ≤ 2 ^ 63 - 1 →
      TokenSource.tokens (Cursor.ofText (String.ofList (withoutZeros digits))) =
        .ok [⟨.number (decimalValue digits), .start⟩,
          ⟨.endOfFile, Location.start.past (withoutZeros digits)⟩]) ∧
    ∀ digits' : List Char, (∀ c ∈ digits', c.isDigit = true) →
      (String.ofList (withoutZeros digits) = String.ofList (withoutZeros digits') ↔
        decimalValue digits = decimalValue digits') := by
  refine ⟨?_, ?_, ?_, ?_, ?_⟩
  · intro lead rest here hlead hrest
    have hscan := (Cursor.scan_layout hlead _ here).trans
      (Cursor.scan_digits hne hdigits hrest (here.past lead))
    rwa [← Location.past_append] at hscan
  · intro limit p q here h
    obtain ⟨e, site, hstage⟩ := Progress.exists_operator_of_number rfl h
    rw [ofValue_decimalValue hdigits] at hstage
    exact ⟨e, site, hstage⟩
  · intro text pre rest p numeral depth htext hrest hparse hnode
    exact numeral_of_parse hparse hdigits hrest htext hnode
  · intro hvalue
    have htokens := Cursor.tokens_digits (withoutZeros_ne_nil digits)
      (isDigit_of_mem_withoutZeros hdigits)
    rw [decimalValue_withoutZeros] at htokens
    exact htokens hvalue
  · intro digits' hdigits'
    rw [String.ofList_inj, withoutZeros_eq_iff hdigits hdigits']

/-- A program that returns a seven with two zeros in front of it. -/
def sevenText : String := "int f() \x7b return 007; \x7d"

def sevenProgram : Program :=
  ⟨[⟨"f", .int, [], [.returnValue (some (.number "7" ⟨1, 18⟩)) ⟨1, 11⟩], ⟨1, 1⟩⟩]⟩

/-- The seven behind its zeros is read as the number seven, and its node is called `7`. One
more than the greatest number is refused, with a zero in front of it like without one. -/
theorem numerals_of_sevenText :
    (parse (Cursor.ofText sevenText)).1 = .ok sevenProgram ∧
      (.expr (.number "7" ⟨1, 18⟩), 1) ∈ sevenProgram.nodes ∧
      "7" = String.ofList (withoutZeros "007".toList) ∧
      TokenSource.pull (⟨"\t007; \x7d".toList, ⟨1, 17⟩⟩ : Cursor) =
        (.ok ⟨.number 7, ⟨1, 18⟩⟩, ⟨"; \x7d".toList, ⟨1, 21⟩⟩) ∧
      TokenSource.pull (⟨"\t09223372036854775808; \x7d".toList, ⟨1, 17⟩⟩ : Cursor) =
        (.error ⟨.integerOutOfRange "09223372036854775808", ⟨1, 18⟩⟩,
          ⟨"; \x7d".toList, ⟨1, 38⟩⟩) := by
  have hparse : (parse (Cursor.ofText sevenText)).1 = .ok sevenProgram :=
    parse_of_toOption (by decide +kernel)
  have hnode : (.expr (.number "7" ⟨1, 18⟩), 1) ∈ sevenProgram.nodes := by
    simp [sevenProgram, Program.nodes_eq, Program.topLevel, Node.primary, Node.secondary,
      Node.successor, Node.ofExpr?]
  have hlead : Cursor.IsLayout ['\t'] := Cursor.isLayout_singleton (by decide)
  have hseven : ∀ c ∈ "007".toList, c.isDigit = true := List.all_eq_true.1 (by decide)
  have hgreat : ∀ c ∈ "09223372036854775808".toList, c.isDigit = true :=
    List.all_eq_true.1 (by decide)
  have hrest : ∀ c ∈ "; \x7d".toList.head?, c.isDigit = false := by
    rintro c ⟨rfl⟩
    rfl
  obtain ⟨hread, -, hnumeral, -⟩ := numerals_of_any_length (by decide) hseven
  obtain ⟨hrefused, -⟩ := numerals_of_any_length (by decide) hgreat
  refine ⟨hparse, hnode, ?_, ?_, ?_⟩
  · exact hnumeral sevenText "int f() \x7b return ".toList "; \x7d".toList sevenProgram "7" 1
      (by decide) hrest hparse hnode
  · exact hread ['\t'] "; \x7d".toList ⟨1, 17⟩ hlead hrest
  · exact hrefused ['\t'] "; \x7d".toList ⟨1, 17⟩ hlead hrest

end SyntaxExplorer
