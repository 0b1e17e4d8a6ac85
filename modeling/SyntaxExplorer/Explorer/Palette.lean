import SyntaxExplorer.Node
import SyntaxExplorer.Screen.Style

/-!
# SyntaxExplorer.Explorer.Palette

**The colours of the explorer**, by what they are used for.
-/

namespace SyntaxExplorer.Palette

def text : Color := .rgb 205 214 244

/-- Brackets, and the position in the status line. -/
def primary : Color := .rgb 137 180 250

/-- The mark of the selection. -/
def secondary : Color := .rgb 250 179 135

def comment : Color := .rgb 108 112 134

def success : Color := .rgb 166 227 161

def keyword : Color := .rgb 137 180 250

def stringLiteral : Color := .rgb 250 179 135

def number : Color := .rgb 250 179 135

def focusedBorder : Color := .rgb 249 226 175

def border : Color := .rgb 108 112 134

/-- The background of the selected line and of the status line. -/
def currentLine : Color := .rgb 50 50 70

def function : Color := .rgb 249 226 175

def typeName : Color := .rgb 148 226 213

/-- The colour of the label of a kind. -/
def ofKind : NodeKind → Color
  | .function => function
  | .type => typeName
  | .param | .declaration | .assignment => success
  | .ifThen | .ifElse | .ifBody | .whileLoop | .returnValue => keyword
  | .binaryOp => text
  | .number => number
  | .id => secondary

end SyntaxExplorer.Palette
