import SyntaxExplorer.Scanner.Error
import SyntaxExplorer.Token

/-!
# SyntaxExplorer.Token.Source

**Where tokens come from.** A source hands out one token at a time, or says why
it cannot; it may be asked again after an error, and once the text is used up it
hands out the end of the text for ever. A text scanned on demand is a source,
and so is a list of tokens made elsewhere (`Replay`).

Every source carries a bound on the tokens it still has
(`TokenSource.remaining`), which each token but the end of the text lowers. All
loops over a source end by it.
-/

namespace SyntaxExplorer

/-- A supplier of finitely many tokens before the end of the text. -/
class TokenSource (σ : Type) where
  /-- The next token, or why there is none, and the source afterwards. -/
  pull : σ → Except ScanError Token × σ
  /-- A bound on the tokens left before the end of the text. -/
  remaining : σ → Nat
  /-- A token other than the end of the text lowers the bound. -/
  remaining_pull : ∀ {s : σ} {t : Token} {s' : σ}, pull s = (.ok t, s') →
    remaining s' + (if t.isEnd then 0 else 1) ≤ remaining s

namespace TokenSource

variable {σ : Type} [TokenSource σ]

theorem remaining_lt {s : σ} {t : Token} {s' : σ} (h : pull s = (.ok t, s'))
    (ht : t.isEnd = false) : remaining s' < remaining s := by
  have := remaining_pull h
  simp only [ht] at this
  exact this

/-- What a source hands out, up to and including the end of the text or up to
the first error. -/
structure Drained where
  tokens : List Token
  error : Option ScanError

/-- Pull until the end of the text or the first error; `read` holds what came
before, the last token first. -/
def drainFrom (read : List Token) (s : σ) : Drained :=
  match _h : pull s with
  | (.error e, _) => ⟨read.reverse, some e⟩
  | (.ok t, s') =>
    if _ht : t.isEnd then ⟨(t :: read).reverse, none⟩ else drainFrom (t :: read) s'
termination_by remaining s
decreasing_by exact remaining_lt _h (by simpa using _ht)

/-- Every token of a source, or those before its first error. -/
def drain (s : σ) : Drained := drainFrom [] s

/-- Every token of a source, the end of the text included, unless it fails. -/
def tokens (s : σ) : Except ScanError (List Token) :=
  match (drain s).error with
  | some e => .error e
  | none => .ok (drain s).tokens

/-- The next `count` answers of a source, errors among them, and the source afterwards. -/
def pulls : Nat → σ → List (Except ScanError Token) × σ
  | 0, s => ([], s)
  | count + 1, s =>
    let (answer, s) := pull s
    let (answers, s) := pulls count s
    (answer :: answers, s)

end TokenSource

/-- A list of tokens handed out one after the other, and the location of the
last one that was. -/
structure Replay where
  tokens : List Token
  last : Location

namespace Replay

/-- Replay a list from its first token on. -/
def ofTokens (tokens : List Token) : Replay := ⟨tokens, .start⟩

/-- The next token of the list; then the end of the text, for ever, where the
last token stood. -/
def next (r : Replay) : Token × Replay :=
  match r.tokens with
  | [] => (⟨.endOfFile, r.last⟩, r)
  | t :: ts => (t, ⟨ts, t.location⟩)

instance : TokenSource Replay where
  pull r := (.ok r.next.1, r.next.2)
  remaining r := r.tokens.length
  remaining_pull {r t r'} h := by
    obtain ⟨ts, last⟩ := r
    cases ts with
    | nil =>
      simp only [next, Prod.mk.injEq, Except.ok.injEq] at h
      simp [← h.1, ← h.2, Token.isEnd]
    | cons u us =>
      simp only [next, Prod.mk.injEq, Except.ok.injEq] at h
      rw [← h.2]
      cases t.isEnd <;> simp

end Replay

end SyntaxExplorer
