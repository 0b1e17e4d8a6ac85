import SyntaxExplorer.Command.Run

/-!
# SyntaxExplorer.Command.Directory

**A directory held in memory**, in which the command can be run. A path leads
from the directory through its components: an empty one and a single dot stay
where they are, two dots lead to the directory above, and a file can only be
the last component. Only what is below the directory can be seen.
-/

namespace SyntaxExplorer

namespace Command

/-- The files of a directory, each with its path from there, and the text that
the standard input holds. -/
structure Directory where
  files : List (List String × ByteArray)
  stdin : ByteArray

namespace Directory

/-- The components of a path. -/
def components (path : String) : List String :=
  (path.toList.splitOn '/').map String.ofList

/-- Is there a file below this path? -/
def hasDirectory (d : Directory) (path : List String) : Bool :=
  d.files.any fun file => path.isPrefixOf file.1 && path != file.1

/-- The file at this path. -/
def file? (d : Directory) (path : List String) : Option ByteArray :=
  (d.files.find? fun file => file.1 == path).map Prod.snd

/-- Follow the components from the directory `here`. -/
def follow (d : Directory) (here : List String) : List String → Except ReadFailure ByteArray
  | [] => .error .isDirectory
  | "" :: rest => d.follow here rest
  | "." :: rest => d.follow here rest
  | ".." :: rest => d.follow here.dropLast rest
  | name :: rest =>
    let there := here ++ [name]
    match d.file? there, rest with
    | some bytes, [] => .ok bytes
    | some _, _ :: _ => .error .notDirectory
    | none, _ => if d.hasDirectory there then d.follow there rest else .error .notFound

/-- A path that starts with a slash leads past the directory. -/
def isAbsolute (path : String) : Bool := path.startsWith "/"

/-- The directory at the root, of which nothing can be seen. -/
def root : Directory := ⟨[], .empty⟩

/-- The text of a file or of the standard input. -/
def read (d : Directory) (name : String) : Except ReadFailure String :=
  if name = stdinName then textOfBytes d.stdin
  else
    match (if isAbsolute name then root else d).follow [] (components name) with
    | .ok bytes => textOfBytes bytes
    | .error cause => .error cause

/-- Run the command in the directory. -/
def run (d : Directory) (arguments : List String) : Outcome :=
  answer d.read (Request.ofArguments arguments)

end Directory

end Command

end SyntaxExplorer
