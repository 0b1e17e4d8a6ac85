import SyntaxExplorer.Command.Request
import SyntaxExplorer.Node.Census
import SyntaxExplorer.Node.Release
import SyntaxExplorer.Parser
import SyntaxExplorer.Scanner
import SyntaxExplorer.Token.Listing

/-!
# SyntaxExplorer.Command.Run

**What the command answers**: an exit code and what it writes to its two outputs.
The outline or the token listing goes to the standard output, errors and
statistics go to the error output. An error in a text is one line there, save for a
line feed that is escaped in a string literal, which stands in the message as it
is; an error about a file that cannot be read also names the cause.
-/

namespace SyntaxExplorer

namespace Command

/-- Why a file has no text. -/
inductive ReadFailure
  | notFound
  | notDirectory
  | isDirectory
  | notText
  /-- Any other cause, in the words of whoever failed to read. -/
  | other (message : String)
  deriving Repr, DecidableEq

def ReadFailure.message : ReadFailure → String
  | notFound => "No such file or directory (os error 2)"
  | notDirectory => "Not a directory (os error 20)"
  | isDirectory => "Is a directory (os error 21)"
  | notText => "stream did not contain valid UTF-8"
  | other message => message

/-- The text of a file, which is UTF-8. -/
def textOfBytes (bytes : ByteArray) : Except ReadFailure String :=
  match String.fromUTF8? bytes with
  | some text => .ok text
  | none => .error .notText

structure Outcome where
  code : Nat
  stdout : String
  stderr : String
  deriving Repr, DecidableEq

namespace Outcome

def success (stdout stderr : String) : Outcome := ⟨0, stdout, stderr⟩

/-- A failure, behind what was already written. -/
def failure (stdout message : String) : Outcome := ⟨1, stdout, s!"Error: {message}\n"⟩

/-- The arguments ask for nothing. -/
def usage (e : UsageError) : Outcome := ⟨2, "", s!"error: {e.message}\n"⟩

end Outcome

/-- The name under which the standard input is asked for. -/
def stdinName : String := "-"

def versionText : String := "minic 0.1.0\n"

def helpLines : List String := [
  "Parse a minic source file and print its syntax tree",
  "",
  "Usage: minic [OPTIONS] <FILE>",
  "",
  "Arguments:",
  "  <FILE>  Source file, or `-` to read stdin",
  "",
  "Options:",
  "      --indent <INDENT>  Spaces per depth level in the dump [default: 2]",
  "      --stats            Print node statistics to stderr after the dump",
  "      --tokens           Print the token stream instead of parsing",
  "      --explore          Browse the tree in a terminal UI instead of printing it",
  "  -h, --help             Print help",
  "  -V, --version          Print version"]

def helpText : String := String.join (helpLines.map (· ++ "\n"))

/-- The file cannot be read. -/
def unreadable (file : String) (cause : ReadFailure) : Outcome :=
  let name := if file = stdinName then "stdin" else file
  .failure "" s!"failed to read {name}\n\nCaused by:\n    {cause.message}"

/-- List the tokens of a text. -/
def listTokens (text : String) : Outcome :=
  match tokenListing (Cursor.ofText text) with
  | (listing, none) => .success listing ""
  | (listing, some e) => .failure listing (SyntaxError.ofScanError e).text

/-- Print the outline of a program and, if asked for, its statistics. -/
def print (options : Options) (p : Program) : Outcome :=
  let stats :=
    if options.stats then (Census.ofProgram p).text ++ s!"released: {(release (some p)).released}\n" else ""
  .success (p.outline options.indent) stats

/-- What is done with the text of the file. -/
def onText (options : Options) (text : String) : Outcome :=
  if options.tokens then listTokens text
  else
    match (parse (Cursor.ofText text)).1 with
    | .error e => .failure "" e.text
    | .ok p =>
      if options.explore then .failure "" "the explorer needs a terminal"
      else print options p

/-- The answer to a request, where `read` is the text of a file or why it has none. -/
def answer (read : String → Except ReadFailure String) :
    Except UsageError Request → Outcome
  | .error e => .usage e
  | .ok .help => .success helpText ""
  | .ok .version => .success versionText ""
  | .ok (.run options) =>
    match read options.file with
    | .error cause => unreadable options.file cause
    | .ok text => onText options text

end Command

end SyntaxExplorer
