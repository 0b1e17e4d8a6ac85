import SyntaxExplorer.Command.Directory
import SyntaxExplorer.Command.Request
import SyntaxExplorer.Command.Run
import SyntaxExplorer.Explorer
import SyntaxExplorer.Explorer.Frame
import SyntaxExplorer.Explorer.Highlight
import SyntaxExplorer.Explorer.OutlineView
import SyntaxExplorer.Explorer.Palette
import SyntaxExplorer.Explorer.SourceView
import SyntaxExplorer.Explorer.StatusLine
import SyntaxExplorer.Location
import SyntaxExplorer.Main
import SyntaxExplorer.Node
import SyntaxExplorer.Node.Census
import SyntaxExplorer.Node.Outline
import SyntaxExplorer.Node.Release
import SyntaxExplorer.Node.Walk
import SyntaxExplorer.Output.Sink
import SyntaxExplorer.Output.TextWriter
import SyntaxExplorer.Output.Writing
import SyntaxExplorer.Parser
import SyntaxExplorer.Parser.Error
import SyntaxExplorer.Parser.Progress
import SyntaxExplorer.Program.Basic
import SyntaxExplorer.Program.Expr
import SyntaxExplorer.Proofs.Command.Diagnostics
import SyntaxExplorer.Proofs.Explorer.Highlight
import SyntaxExplorer.Proofs.Explorer.Independence
import SyntaxExplorer.Proofs.Explorer.LexemeSpans
import SyntaxExplorer.Proofs.Explorer.MarkedLine
import SyntaxExplorer.Proofs.Explorer.OutlineView
import SyntaxExplorer.Proofs.Explorer.ReservedWords
import SyntaxExplorer.Proofs.Explorer.Run
import SyntaxExplorer.Proofs.Explorer.Window
import SyntaxExplorer.Proofs.Grammar
import SyntaxExplorer.Proofs.Grammar.Relocation
import SyntaxExplorer.Proofs.Grammar.Trees
import SyntaxExplorer.Proofs.Node.Anchors
import SyntaxExplorer.Proofs.Node.Balance
import SyntaxExplorer.Proofs.Node.Census
import SyntaxExplorer.Proofs.Node.Indented
import SyntaxExplorer.Proofs.Node.Locations
import SyntaxExplorer.Proofs.Node.Numerals
import SyntaxExplorer.Proofs.Node.Outline
import SyntaxExplorer.Proofs.Node.Parts
import SyntaxExplorer.Proofs.Node.Release
import SyntaxExplorer.Proofs.Node.Traversal
import SyntaxExplorer.Proofs.Node.Walk
import SyntaxExplorer.Proofs.Output.Sink
import SyntaxExplorer.Proofs.Output.TextWriter
import SyntaxExplorer.Proofs.Output.Writing
import SyntaxExplorer.Proofs.Parser.Calls
import SyntaxExplorer.Proofs.Parser.Concatenation
import SyntaxExplorer.Proofs.Parser.RoundTrip
import SyntaxExplorer.Proofs.Parser.Run
import SyntaxExplorer.Proofs.Parser.Scanning
import SyntaxExplorer.Proofs.Parser.Sentences
import SyntaxExplorer.Proofs.Parser.ValidPrefix
import SyntaxExplorer.Proofs.Parser.Words
import SyntaxExplorer.Proofs.Program.PrefixForm
import SyntaxExplorer.Proofs.Program.Relocation
import SyntaxExplorer.Proofs.Program.Shape
import SyntaxExplorer.Proofs.Program.Unparse
import SyntaxExplorer.Proofs.Progress.Completeness
import SyntaxExplorer.Proofs.Progress.Completion
import SyntaxExplorer.Proofs.Progress.LeadingComma
import SyntaxExplorer.Proofs.Progress.Refusal
import SyntaxExplorer.Proofs.Progress.Relocation
import SyntaxExplorer.Proofs.Progress.Run
import SyntaxExplorer.Proofs.Progress.Soundness
import SyntaxExplorer.Proofs.Scanner.Concatenation
import SyntaxExplorer.Proofs.Scanner.Coordinates
import SyntaxExplorer.Proofs.Scanner.Faults
import SyntaxExplorer.Proofs.Scanner.Layout
import SyntaxExplorer.Proofs.Scanner.Moves
import SyntaxExplorer.Proofs.Scanner.Pulls
import SyntaxExplorer.Proofs.Scanner.RoundTrip
import SyntaxExplorer.Proofs.Scanner.Spelling
import SyntaxExplorer.Proofs.Scanner.Tokens
import SyntaxExplorer.Proofs.Text.Decimal
import SyntaxExplorer.Proofs.Text.Lines
import SyntaxExplorer.Proofs.Text.OneLine
import SyntaxExplorer.Proofs.Text.Readback
import SyntaxExplorer.Proofs.Token.Listing
import SyntaxExplorer.Proofs.Token.Source
import SyntaxExplorer.Scanner
import SyntaxExplorer.Scanner.Cursor
import SyntaxExplorer.Scanner.Error
import SyntaxExplorer.Scanner.Layout
import SyntaxExplorer.Screen
import SyntaxExplorer.Screen.Display
import SyntaxExplorer.Screen.Line
import SyntaxExplorer.Screen.Style
import SyntaxExplorer.Text.Alphanumeric
import SyntaxExplorer.Text.CharRanges
import SyntaxExplorer.Text.Cluster
import SyntaxExplorer.Text.ClusterClass
import SyntaxExplorer.Text.Emoji
import SyntaxExplorer.Text.GraphemeExtender
import SyntaxExplorer.Text.Lines
import SyntaxExplorer.Text.Printable
import SyntaxExplorer.Text.Quoted
import SyntaxExplorer.Text.Width
import SyntaxExplorer.Token
import SyntaxExplorer.Token.Listing
import SyntaxExplorer.Token.Source
import SyntaxExplorer.Workspace
