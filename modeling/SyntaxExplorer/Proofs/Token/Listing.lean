import Mathlib
import SyntaxExplorer.Proofs.Command.Diagnostics
import SyntaxExplorer.Proofs.Scanner.Pulls
import SyntaxExplorer.Proofs.Text.Lines
import SyntaxExplorer.Proofs.Text.Readback

/-!
# SyntaxExplorer.Proofs.Token.Listing

**The listing of the tokens can be read back**, with any `Text.Escaping` of the characters of
string literals. The wording of a lexeme determines it (`Lexeme.textWith_inj`), and its line
determines a token, since neither of the two numbers in front of the wording goes on behind its
end (`Token.lineWith_inj`). Whatever stands in a string literal, the line is one line, so a
listing can be cut into the lines of its tokens (`Token.listingWith_inj`).

The listing of the command is the one for `Text.escapeChar`, up to the end of the text or to
the first error (`token_listing_is_faithful`).
-/

namespace SyntaxExplorer

open Text

/-! ### The wording of a lexeme -/

theorem Keyword.spelling_inj {k k' : Keyword} (h : k.spelling = k'.spelling) : k = k' := by
  have hkeyword := congrArg ofSpelling? h
  simpa using hkeyword

theorem Symbol.mem_all (s : Symbol) : s ∈ Symbol.all := by
  cases s <;> decide

theorem Symbol.spelling_inj {s s' : Symbol} (h : s.spelling = s'.spelling) : s = s' := by
  have hall : ∀ a ∈ all, ∀ b ∈ all, a.spelling = b.spelling → a = b := by decide
  exact hall s s.mem_all s' s'.mem_all h

theorem Keyword.spelling_ne_symbol (k : Keyword) (s : Symbol) : k.spelling ≠ s.spelling := by
  have hall : ∀ a ∈ Keyword.all, ∀ b ∈ Symbol.all, a.spelling ≠ b.spelling := by decide
  exact hall k k.mem_all s s.mem_all

namespace Lexeme

/-- The first letter of the text of a lexeme, which `textWith` begins with. -/
def initial : Lexeme → Char
  | number _ => 'n'
  | identifier _ => 'i'
  | stringLiteral _ => 's'
  | keyword _ => '\''
  | symbol _ => '\''
  | endOfFile => 'e'

theorem head?_textWith (escape : Char → String) (l : Lexeme) :
    (l.textWith escape).toList.head? = some l.initial := by
  have happend : ∀ {s t : String} {c : Char}, s.toList.head? = some c →
      (s ++ t).toList.head? = some c := by
    intro s t c h
    rw [String.toList_append, List.head?_append, h]
    rfl
  cases l with
  | number value => exact happend rfl
  | identifier name => exact happend (happend rfl)
  | stringLiteral contents => exact happend rfl
  | keyword k => exact happend (happend rfl)
  | symbol s => exact happend (happend rfl)
  | endOfFile =>
      show "end of file".toList.head? = some 'e'
      rfl

/-- **The wording of a lexeme determines it**, with any `Escaping` of string literals. -/
theorem textWith_inj {escape : Char → String} (hescape : Escaping fun c => (escape c).toList)
    {l m : Lexeme} (h : l.textWith escape = m.textWith escape) : l = m := by
  have hinitial : l.initial = m.initial := by
    have hhead := congrArg (fun s => s.toList.head?) h
    simpa only [head?_textWith, Option.some.injEq] using hhead
  cases l with
  | number v =>
      cases m with
      | number w => rw [Int.repr_inj.1 ((String.append_right_inj _).1 h)]
      | _ => cases hinitial
  | identifier name =>
      cases m with
      | identifier other =>
          have hname : name = other :=
            (String.append_right_inj _).1 ((String.append_left_inj _).1 h)
          rw [hname]
      | _ => cases hinitial
  | stringLiteral contents =>
      cases m with
      | stringLiteral other => rw [hescape.quotedWith_inj ((String.append_right_inj _).1 h)]
      | _ => cases hinitial
  | keyword k =>
      have hspelling := fun t (h : "'" ++ k.spelling ++ "'" = "'" ++ t ++ "'") =>
        (String.append_right_inj _).1 ((String.append_left_inj _).1 h)
      cases m with
      | keyword k' => rw [Keyword.spelling_inj (hspelling _ h)]
      | symbol s => exact absurd (hspelling _ h) (k.spelling_ne_symbol s)
      | _ => cases hinitial
  | symbol s =>
      have hspelling := fun t (h : "'" ++ s.spelling ++ "'" = "'" ++ t ++ "'") =>
        (String.append_right_inj _).1 ((String.append_left_inj _).1 h)
      cases m with
      | keyword k => exact absurd (hspelling _ h).symm (k.spelling_ne_symbol s)
      | symbol s' => rw [Symbol.spelling_inj (hspelling _ h)]
      | _ => cases hinitial
  | endOfFile =>
      cases m with
      | endOfFile => rfl
      | _ => cases hinitial

end Lexeme

/-! ### The line of a token -/

namespace Token

/-- What stands in the line of a token, where `escape` writes the characters of a string
literal. -/
def lineWith (escape : Char → String) (t : Token) : String :=
  s!"{t.location.line}:{t.location.column} {t.lexeme.textWith escape}"

/-- What stands in the line of a token: its place and its `Token.text`. -/
def lineText (t : Token) : String := s!"{t.location.line}:{t.location.column} {t.text}"

/-- In `lineWith` the number of the line is ended by a colon, and that of the column by a
space. -/
theorem toList_lineWith (escape : Char → String) (t : Token) : (t.lineWith escape).toList =
    (toString t.location.line).toList ++
      ':' :: ((toString t.location.column).toList ++ ' ' :: (t.lexeme.textWith escape).toList) := by
  have hcolon : (toString ":").toList = [':'] := rfl
  have hspace : (toString " ").toList = [' '] := rfl
  simp only [lineWith, String.toList_append, hcolon, hspace, List.append_assoc,
    List.singleton_append]
  rfl

section Line

variable {escape : Char → String} (hescape : Escaping fun c => (escape c).toList) {t u : Token}

include hescape

/-- **The line of a token determines it**: `lineWith` is injective for every `Escaping`. -/
theorem lineWith_inj (h : t.lineWith escape = u.lineWith escape) : t = u := by
  have hdigits : ∀ {c : Char} {n : Nat}, c.isDigit = false → c ∉ (toString n).toList :=
    fun hc hmem => by simp [isDigit_of_mem_toString hmem] at hc
  have hlist := congrArg String.toList h
  rw [toList_lineWith, toList_lineWith] at hlist
  obtain ⟨hline, hrest⟩ := ended_inj (hdigits rfl) (hdigits rfl) hlist
  obtain ⟨hcolumn, htext⟩ := ended_inj (hdigits rfl) (hdigits rfl) hrest
  have hlocation : t.location = u.location := by
    rw [Location.mk.injEq]
    exact ⟨Nat.repr_inj.1 (String.toList_inj.1 hline), Nat.repr_inj.1 (String.toList_inj.1 hcolumn)⟩
  have hlexeme : t.lexeme = u.lexeme := Lexeme.textWith_inj hescape (String.toList_inj.1 htext)
  rw [Token.mk.injEq]
  exact ⟨hlexeme, hlocation⟩

/-- The `lineWith` of a `WellFormed` token is one line. -/
theorem oneLine_lineWith (h : t.lexeme.WellFormed) : OneLine (t.lineWith escape) := by
  have hline : OneLine (toString t.location.line) := oneLine_toString _
  have hcolumn : OneLine (toString t.location.column) := oneLine_toString _
  have htext : OneLine (t.lexeme.textWith escape) := Lexeme.oneLine_textWith hescape h
  rw [OneLine, toList_lineWith]
  simp only [List.mem_append, List.mem_cons, not_or]
  exact ⟨hline, by decide, hcolumn, by decide, htext⟩

end Line

end Token

/-! ### The lines of a listing -/

/-- The text is made of these lines, each ended by its only line feed. -/
def Text.HasLines (text : String) (lines : List String) : Prop :=
  text = String.join (lines.map (· ++ "\n")) ∧ ∀ line ∈ lines, OneLine line

namespace Text.HasLines

variable {text : String} {ls ms : List String}

theorem toList_eq (h : HasLines text ls) :
    text.toList = (ls.map String.toList).flatMap fun l => l ++ ['\n'] := by
  have hfeed : "\n".toList = ['\n'] := rfl
  simp [h.1, String.toList_join, List.flatMap_map, hfeed]

/-- There is one line feed for each line. -/
theorem count_lineFeed (h : HasLines text ls) : text.toList.count '\n' = ls.length := by
  have hone : ∀ l ∈ ls.map String.toList,
      (List.count '\n' ∘ fun l => l ++ ['\n']) l = 1 := by
    intro l hl
    obtain ⟨line, hline, rfl⟩ := List.mem_map.1 hl
    have hcount : line.toList.count '\n' = 0 := List.count_eq_zero.2 (h.2 line hline)
    rw [Function.comp_apply, List.count_append, hcount]
    rfl
  rw [h.toList_eq, List.count_flatMap, List.map_congr_left hone]
  simp [Function.comp_def]

/-- The text determines its lines: no two lists of them satisfy `HasLines`. -/
theorem lines_inj (hls : HasLines text ls) (hms : HasLines text ms) : ls = ms := by
  have honeLine : ∀ {ls : List String}, (∀ l ∈ ls, OneLine l) →
      ∀ l ∈ ls.map String.toList, '\n' ∉ l := fun h => List.forall_mem_map.2 h
  have hlines := flatMap_lineFeed_inj (honeLine hls.2) (honeLine hms.2)
    (hls.toList_eq.symm.trans hms.toList_eq)
  exact List.map_injective_iff.2 (fun _ _ => String.toList_injective) hlines

end Text.HasLines

namespace Token

/-- The `lineWith`s of some tokens, each ended by a line feed. -/
def listingWith (escape : Char → String) (ts : List Token) : String :=
  String.join (ts.map fun t => t.lineWith escape ++ "\n")

section Listing

variable {escape : Char → String} (hescape : Escaping fun c => (escape c).toList)
  {ts us : List Token}

include hescape

theorem hasLines_listingWith (h : ∀ t ∈ ts, t.lexeme.WellFormed) :
    HasLines (listingWith escape ts) (ts.map (lineWith escape)) := by
  refine ⟨?_, List.forall_mem_map.2 fun t ht => oneLine_lineWith hescape (h t ht)⟩
  rw [listingWith, List.map_map]
  rfl

/-- **A listing determines its tokens**, with any `Escaping` of string literals, if these are
tokens that can be read (`Lexeme.WellFormed`). -/
theorem listingWith_inj (hts : ∀ t ∈ ts, t.lexeme.WellFormed)
    (hus : ∀ u ∈ us, u.lexeme.WellFormed) (h : listingWith escape ts = listingWith escape us) :
    ts = us := by
  have hlines := hasLines_listingWith hescape hts
  rw [h] at hlines
  exact List.map_injective_iff.2 (fun _ _ => lineWith_inj hescape)
    (hlines.lines_inj (hasLines_listingWith hescape hus))

end Listing

end Token

open TokenSource Cursor

theorem wellFormed_of_mem_drain (text : String) :
    ∀ t ∈ (drain (ofText text)).tokens, t.lexeme.WellFormed :=
  fun t ht => (forall_mem_drain (behind_ofText text) t ht).2

/-- The command writes string literals with the escapes of `escapeChar`. -/
theorem tokenListing_eq (text : String) : (tokenListing (ofText text)).1 =
    Token.listingWith escapeChar (drain (ofText text)).tokens := rfl

/-- A `tokenListing` has the `lineText`s of the tokens that `drain` hands out in front of the
end or the error. -/
theorem hasLines_tokenListing (text : String) :
    HasLines (tokenListing (ofText text)).1 ((drain (ofText text)).tokens.map Token.lineText) :=
  Token.hasLines_listingWith escaping_escapeChar (wellFormed_of_mem_drain text)

/-- A listing determines the tokens that it has the lines of (`Token.listingWith_inj`). -/
theorem tokens_eq_of_tokenListing_eq {text text' : String}
    (h : (tokenListing (ofText text)).1 = (tokenListing (ofText text')).1) :
    (drain (ofText text)).tokens = (drain (ofText text')).tokens := by
  rw [tokenListing_eq, tokenListing_eq] at h
  exact Token.listingWith_inj escaping_escapeChar (wellFormed_of_mem_drain text)
    (wellFormed_of_mem_drain text') h

/-- Where so many of the `pulls` answer a token and the next one an error, these tokens are all
that `drain` hands out. The end of the text is not among them, since nothing else follows it. -/
theorem drain_of_pulls {c : Cursor} {ts : List Token} {e : ScanError}
    (h : (pulls (ts.length + 1) c).1 = ts.map .ok ++ [.error e]) : drain c = ⟨ts, some e⟩ := by
  induction ts generalizing c with
  | nil =>
      have hone : (pulls (0 + 1) c).1 = [c.scan.1] := rfl
      rw [List.length_nil, hone] at h
      exact drain_of_error (Prod.ext (List.cons.inj h).1 rfl : c.scan = (.error e, c.scan.2))
  | cons t ts ih =>
      have hcons : (pulls (ts.length + 1 + 1) c).1 =
        c.scan.1 :: (pulls (ts.length + 1) c.scan.2).1 := rfl
      rw [List.length_cons, hcons, List.map_cons, List.cons_append] at h
      obtain ⟨hfirst, hrest⟩ := List.cons.inj h
      have hscan : c.scan = (.ok t, c.scan.2) := Prod.ext hfirst rfl
      cases ht : t.isEnd with
      | false => rw [drain_of_token hscan ht, ih hrest]
      | true =>
          have hend : isEnd c.scan.1 = true := by
            rw [hfirst]
            exact ht
          have hmem : .error e ∈ (pulls (ts.length + 1) c.scan.2).1 := by
            rw [hrest]
            simp
          rw [scan_of_isEnd hend, pulls_atEnd] at hmem
          cases List.eq_of_mem_replicate hmem

theorem stdout_listTokens (text : String) :
    (Command.listTokens text).stdout = (tokenListing (ofText text)).1 := by
  unfold Command.listTokens
  split <;> rename_i h <;> rw [h] <;> rfl

/-- **The listing of the tokens is faithful.** It is all that `Command.onText` writes for a
text whose tokens can be read, and it has one `lineText` for each token, with the only line
feed behind it, whatever stands in the string literals. Two such texts with one listing have
the same tokens at the same places (`listingWith_inj`). Where so many `pulls` answer a token
and the next one an error, the listing has the lines of these tokens, and the command fails. -/
theorem token_listing_is_faithful (options : Command.Options) (htokens : options.tokens = true) :
    (∀ (text : String) (ts : List Token), tokens (ofText text) = .ok ts →
      ∃ listing, Command.onText options text = ⟨0, listing, ""⟩ ∧
        HasLines listing (ts.map Token.lineText) ∧ listing.toList.count '\n' = ts.length) ∧
    (∀ (text text' : String) (ts ts' : List Token),
      tokens (ofText text) = .ok ts → tokens (ofText text') = .ok ts' →
      (Command.onText options text).stdout = (Command.onText options text').stdout → ts = ts') ∧
    (∀ (text : String) (ts : List Token) (e : ScanError),
      (pulls (ts.length + 1) (ofText text)).1 = ts.map .ok ++ [.error e] →
      ∃ listing, Command.onText options text =
          ⟨1, listing, "Error: " ++ (SyntaxError.ofScanError e).text ++ "\n"⟩ ∧
        HasLines listing (ts.map Token.lineText) ∧ listing.toList.count '\n' = ts.length) := by
  have hanswer : ∀ text, Command.onText options text = Command.listTokens text := fun text =>
    if_pos htokens
  -- The lines of what is handed out, and how many there are.
  have hlines : ∀ {text : String} {ts : List Token} {error : Option ScanError},
      drain (ofText text) = ⟨ts, error⟩ →
      HasLines (tokenListing (ofText text)).1 (ts.map Token.lineText) ∧
        (tokenListing (ofText text)).1.toList.count '\n' = ts.length := by
    intro text ts error hdrain
    have hlines := hasLines_tokenListing text
    rw [hdrain] at hlines
    exact ⟨hlines, by simpa using hlines.count_lineFeed⟩
  refine ⟨?_, ?_, ?_⟩
  · intro text ts hts
    have hdrain := drain_of_tokens hts
    refine ⟨_, ?_, hlines hdrain⟩
    rw [hanswer, Command.listTokens, tokenListing, hdrain]
    rfl
  · intro text text' ts ts' hts hts' heq
    rw [hanswer, hanswer, stdout_listTokens, stdout_listTokens] at heq
    have hdrained := tokens_eq_of_tokenListing_eq heq
    rwa [drain_of_tokens hts, drain_of_tokens hts'] at hdrained
  · intro text ts e hpulls
    have hdrain := drain_of_pulls hpulls
    refine ⟨_, ?_, hlines hdrain⟩
    rw [hanswer, Command.listTokens, tokenListing, hdrain]
    rfl

/-- A literal with a line feed takes one line, a comment leaves no trace, and what stands in
front of an unexpected character is listed. -/
theorem token_listing_of_broken_literal :
    let options : Command.Options := ⟨"-", 2, false, true, false⟩
    (∃ listing, Command.onText options "x\"p\nq\"" = ⟨0, listing, ""⟩ ∧
      HasLines listing
        ["1:1 identifier 'x'", "1:2 string literal \"p\\nq\"", "2:3 end of file"] ∧
      listing.toList.count '\n' = 3) ∧
    (∃ ts ts', tokens (ofText "a/**/b") = .ok ts ∧ tokens (ofText "a    b") = .ok ts' ∧ ts = ts') ∧
    ∃ listing,
      Command.onText options "7;$" =
        ⟨1, listing, "Error: syntax error at line 1, column 3: Unexpected character: '$'\n"⟩ ∧
      HasLines listing ["1:1 number 7", "1:2 ';'"] ∧ listing.toList.count '\n' = 2 := by
  intro options
  obtain ⟨hread, hequal, hfail⟩ := token_listing_is_faithful options rfl
  refine ⟨?_, ?_, ?_⟩
  · exact hread "x\"p\nq\"" [⟨.identifier "x", ⟨1, 1⟩⟩, ⟨.stringLiteral "p\nq", ⟨1, 2⟩⟩,
      ⟨.endOfFile, ⟨2, 3⟩⟩] (by decide +kernel)
  · have hsame : tokens (ofText "a/**/b") = .ok
        [⟨.identifier "a", ⟨1, 1⟩⟩, ⟨.identifier "b", ⟨1, 6⟩⟩, ⟨.endOfFile, ⟨1, 7⟩⟩] := by
      decide +kernel
    have hsame' : tokens (ofText "a    b") = .ok
        [⟨.identifier "a", ⟨1, 1⟩⟩, ⟨.identifier "b", ⟨1, 6⟩⟩, ⟨.endOfFile, ⟨1, 7⟩⟩] := by
      decide +kernel
    exact ⟨_, _, hsame, hsame', hequal _ _ _ _ hsame hsame' (by decide +kernel)⟩
  · exact hfail "7;$" [⟨.number 7, ⟨1, 1⟩⟩, ⟨.symbol .semicolon, ⟨1, 2⟩⟩]
      ⟨.unexpectedCharacter '$', ⟨1, 3⟩⟩ (by decide +kernel)

end SyntaxExplorer
