import SyntaxExplorer.Token.Source

/-!
# SyntaxExplorer.Token.Listing

**The tokens of a source as lines**, one for each token, up to and including the
end of the text: its location and its wording. Where the source fails, the
lines of the tokens in front of the error remain.
-/

namespace SyntaxExplorer

/-- The line of one token. -/
def Token.listingLine (t : Token) : String :=
  s!"{t.location.line}:{t.location.column} {t.text}\n"

/-- The lines of the tokens of a source, and the error that ends them, if one does. -/
def tokenListing {σ : Type} [TokenSource σ] (s : σ) : String × Option ScanError :=
  let drained := TokenSource.drain s
  (String.join (drained.tokens.map Token.listingLine), drained.error)

end SyntaxExplorer
