import SyntaxExplorer.Node.Outline

/-!
# SyntaxExplorer.Command.Request

**What the arguments of the command ask for.** Arguments are read from left to
right. The first one that asks for help or for the version decides, unless an
argument in front of it is already wrong; that a file is named, and that
options which exclude each other are not combined, is checked at the end.

    command [--indent N] [--stats] [--tokens] [--explore] FILE

Options may stand before and behind the file. Behind `--` every argument is a
file name. Option names are never abbreviated, and no option is given twice.
-/

namespace SyntaxExplorer

namespace Command

/-- The greatest number of spaces per level that can be asked for. -/
def maxIndent : Nat := 64

/-- What to do with a file. -/
structure Options where
  file : String
  indent : Nat
  stats : Bool
  tokens : Bool
  explore : Bool
  deriving Repr, DecidableEq

inductive Request
  | run (options : Options)
  | help
  | version
  deriving Repr, DecidableEq

/-- Why the arguments ask for nothing. -/
inductive UsageError
  | missingFile
  | emptyFile
  | extraFile (name : String)
  | unknownOption (name : String)
  | repeatedOption (name : String)
  | unwantedValue (name : String)
  | missingValue (name : String)
  | invalidIndent (value : String)
  | excludedOption (name other : String)
  deriving Repr, DecidableEq

def UsageError.message : UsageError → String
  | missingFile => "a file is required"
  | emptyFile => "the name of the file is empty"
  | extraFile name => s!"only one file is read, found '{name}' as well"
  | unknownOption name => s!"unknown option '{name}'"
  | repeatedOption name => s!"option '{name}' is given twice"
  | unwantedValue name => s!"option '{name}' takes no value"
  | missingValue name => s!"option '{name}' needs a value"
  | invalidIndent value => s!"'{value}' is not a number of spaces up to {maxIndent}"
  | excludedOption name other => s!"option '{name}' excludes '{other}'"

/-- What the arguments read so far have said. -/
structure Given where
  file : Option String
  indent : Option Nat
  stats : Bool
  tokens : Bool
  explore : Bool

def Given.nothing : Given := ⟨none, none, false, false, false⟩

/-- The request of a complete list of arguments. -/
def Given.request (given : Given) : Except UsageError Request :=
  if given.tokens && given.explore then .error (.excludedOption "--tokens" "--explore")
  else
    match given.file with
    | none => .error .missingFile
    | some file =>
      .ok (.run ⟨file, given.indent.getD Outline.defaultIndent, given.stats, given.tokens,
        given.explore⟩)

/-- The value of a run of digits, unless it is empty or holds something else. -/
def digitsValue? (digits : List Char) : Option Nat :=
  if !digits.isEmpty && digits.all Char.isDigit then some (Nat.ofDigitChars 10 digits 0) else none

/-- A number of spaces: digits, perhaps behind a sign, where a minus sign admits
only zero. -/
def indentValue? (value : String) : Option Nat :=
  let number? := match value.toList with
    | '+' :: digits => digitsValue? digits
    | '-' :: digits => (digitsValue? digits).filter (· = 0)
    | digits => digitsValue? digits
  number?.filter (· ≤ maxIndent)

/-- Take up a file name. -/
def Given.withFile (given : Given) (name : String) : Except UsageError Given :=
  match given.file with
  | some _ => .error (.extraFile name)
  | none => if name.isEmpty then .error .emptyFile else .ok { given with file := some name }

/-- Take up a number of spaces per level. -/
def Given.withIndent (given : Given) (value : String) : Except UsageError Given :=
  match given.indent, indentValue? value with
  | some _, _ => .error (.repeatedOption "--indent")
  | none, some n => .ok { given with indent := some n }
  | none, none => .error (.invalidIndent value)

/-- The name of a long option, and its value behind an equals sign. -/
def splitOption (option : List Char) : String × Option String :=
  (String.ofList (option.takeWhile (· ≠ '=')),
    match option.dropWhile (· ≠ '=') with
    | _ :: value => some (String.ofList value)
    | [] => none)

/-- What an argument is. -/
inductive Argument
  /-- Everything behind it is a file name. -/
  | separator
  | long (name : String) (value : Option String)
  | short (letter : Char)
  | file (name : String)

/-- Two dashes start a long option, one dash a short one, of which only the first
letter counts. A dash alone is a file name. -/
def Argument.ofString (argument : String) : Argument :=
  match argument.toList with
  | ['-', '-'] => separator
  | '-' :: '-' :: option =>
    let (name, value) := splitOption option
    long name value
  | '-' :: letter :: _ => short letter
  | _ => file argument

/-- Take up one flag, which has no value and is given once. -/
def flag (name : String) (value : Option String) (isGiven : Bool) (set : Given) :
    Except UsageError Given :=
  match value with
  | some _ => .error (.unwantedValue name)
  | none => if isGiven then .error (.repeatedOption name) else .ok set

/-- A flag that decides what is asked for. -/
def decisive (name : String) (value : Option String) (request : Request) :
    Except UsageError Request :=
  match value with
  | some _ => .error (.unwantedValue name)
  | none => .ok request

/-- Take up the file names behind the separator. -/
def readFiles (given : Given) : List String → Except UsageError Request
  | [] => given.request
  | name :: names =>
    match given.withFile name with
    | .ok given => readFiles given names
    | .error e => .error e

/-- Take up the arguments. -/
def readArguments (given : Given) : List String → Except UsageError Request
  | [] => given.request
  | argument :: rest =>
    let next (given : Except UsageError Given) : Except UsageError Request :=
      match given with
      | .ok given => readArguments given rest
      | .error e => .error e
    match Argument.ofString argument with
    | .separator => readFiles given rest
    | .file name => next (given.withFile name)
    | .short 'h' => .ok .help
    | .short 'V' => .ok .version
    | .short _ => .error (.unknownOption argument)
    | .long "help" value => decisive "--help" value .help
    | .long "version" value => decisive "--version" value .version
    | .long "stats" value => next (flag "--stats" value given.stats { given with stats := true })
    | .long "tokens" value =>
      next (flag "--tokens" value given.tokens { given with tokens := true })
    | .long "explore" value =>
      next (flag "--explore" value given.explore { given with explore := true })
    | .long "indent" (some value) => next (given.withIndent value)
    | .long "indent" none =>
      match rest with
      | [] => .error (.missingValue "--indent")
      | value :: rest =>
        match Argument.ofString value with
        | .file value =>
          match given.withIndent value with
          | .ok given => readArguments given rest
          | .error e => .error e
        | _ => .error (.missingValue "--indent")
    | .long _ _ => .error (.unknownOption argument)

/-- What the arguments ask for. -/
def Request.ofArguments (arguments : List String) : Except UsageError Request :=
  readArguments .nothing arguments

end Command

end SyntaxExplorer
