import SyntaxExplorer.Command.Run

/-!
# SyntaxExplorer.Main

**The command.** Only this module touches files and streams: it reads the file
that is asked for, or the standard input, writes what `Command.answer` says and
exits with its code.
-/

namespace SyntaxExplorer

namespace Command

/-- Why a file could not be read. -/
def ReadFailure.ofError (e : IO.Error) : ReadFailure :=
  match e with
  | .noFileOrDirectory .. => .notFound
  -- The code is that of a directory, with or without a minus sign.
  | .inappropriateType _ code _ =>
    if code = 21 || code + 21 = 0 then .isDirectory else .notDirectory
  | _ => .other (toString e)

/-- Everything that can be read from a stream. -/
partial def readToEnd (stream : IO.FS.Stream) (read : ByteArray) : IO ByteArray := do
  let chunk ← stream.read 65536
  if chunk.isEmpty then return read else readToEnd stream (read ++ chunk)

/-- The bytes of a file, or of the standard input. -/
def readBytes (name : String) : IO ByteArray := do
  if name = stdinName then readToEnd (← IO.getStdin) .empty else IO.FS.readBinFile name

/-- The text of what is asked for; nothing is read where no file is. -/
def readRequested : Except UsageError Request → IO (Except ReadFailure String)
  | .ok (.run options) => do
    try
      return textOfBytes (← readBytes options.file)
    catch e =>
      return .error (ReadFailure.ofError e)
  | _ => return .ok ""

end Command

end SyntaxExplorer

open SyntaxExplorer.Command in
def main (arguments : List String) : IO UInt32 := do
  let request := Request.ofArguments arguments
  let text ← readRequested request
  let outcome := answer (fun _ => text) request
  IO.print outcome.stdout
  (← IO.getStdout).flush
  IO.eprint outcome.stderr
  return outcome.code.toUInt32
