/-!
# SyntaxExplorer.Screen.Style

**How a cell of a screen looks**: two colours, which may be left unset, and
whether the text is bold. Putting one style over another keeps what the upper
one leaves unset.
-/

namespace SyntaxExplorer

inductive Color
  | black
  | rgb (red green blue : UInt8)
  deriving Repr, DecidableEq

namespace Color

/-- Two hexadecimal digits. -/
def hexByte (value : UInt8) : String :=
  String.ofList [Nat.digitChar (value.toNat / 16), Nat.digitChar (value.toNat % 16)]

/-- The name of a colour: a word, or its three parts in hexadecimal. -/
def text : Color → String
  | black => "black"
  | rgb red green blue => "#" ++ hexByte red ++ hexByte green ++ hexByte blue

end Color

structure Style where
  fg : Option Color
  bg : Option Color
  bold : Bool
  deriving Repr, DecidableEq

namespace Style

/-- Nothing is set. -/
def plain : Style := ⟨none, none, false⟩

/-- Text of this colour. -/
def ofColor (color : Color) : Style := ⟨some color, none, false⟩

/-- The same in bold. -/
def emphasised (s : Style) : Style := { s with bold := true }

/-- The same on a background. -/
def on (s : Style) (background : Color) : Style := { s with bg := some background }

/-- The look of `upper` on top of `lower`. -/
def onTopOf (upper lower : Style) : Style :=
  ⟨upper.fg.or lower.fg, upper.bg.or lower.bg, upper.bold || lower.bold⟩

end Style

end SyntaxExplorer
