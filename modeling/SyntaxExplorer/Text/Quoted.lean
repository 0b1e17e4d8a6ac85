import SyntaxExplorer.Text.GraphemeExtender
import SyntaxExplorer.Text.Printable

/-!
# SyntaxExplorer.Text.Quoted

**Text between double quotes**, with everything escaped that could break a
message or hide in one. The double quote and the backslash are escaped, so is
every character that does not show itself or that would attach to the one
before it; all other characters stand for themselves. Two extenders do not
attach to anything in a row of characters, the halfwidth sound marks, and four
letters do not show themselves, the fillers of Hangul. So the written form is
always one line (`Text.quotedWith`, `Text.escapeChar`).
-/

namespace SyntaxExplorer.Text

/-- The digits of a code point in base sixteen, in lower case and without
leading zeros. -/
def hexDigits (code : Nat) : String :=
  String.ofList (Nat.toDigits 16 code)

/-- Letters of Hangul that stand for a missing one and are not displayed. -/
def isFiller (c : Char) : Bool :=
  c.toNat = 0x115F || c.toNat = 0x1160 || c.toNat = 0x3164 || c.toNat = 0xFFA0

/-- The voiced and the semi-voiced sound mark of halfwidth kana, which have a cell
of their own. -/
def isHalfwidthSoundMark (c : Char) : Bool := c.toNat = 0xFF9E || c.toNat = 0xFF9F

/-- Does the character stand for itself between double quotes? -/
def isShown (c : Char) : Bool :=
  isPrintable c && !isFiller c && (!isGraphemeExtender c || isHalfwidthSoundMark c)

/-- How a character is written between double quotes. -/
def escapeChar (c : Char) : String :=
  match c with
  | '"' => "\\\""
  | '\\' => "\\\\"
  | '\n' => "\\n"
  | '\r' => "\\r"
  | '\t' => "\\t"
  | '\x00' => "\\0"
  | _ =>
    if isShown c then String.singleton c
    else "\\u\x7b" ++ hexDigits c.toNat ++ "\x7d"

/-- The text between double quotes, with each of its characters written in some way. -/
def quotedWith (escape : Char → String) (s : String) : String :=
  "\"" ++ String.join (s.toList.map escape) ++ "\""

end SyntaxExplorer.Text
