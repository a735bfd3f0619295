import TurtleGraphics.CommandLine.Program

/-!
# The program at a terminal

`main` reads files and the terminal, and leaves all else to the library. A session is held round by
round, so that each answer is seen before the next line is entered.
-/

namespace TurtleGraphics.CommandLine

/-- Writes `exit.out` and `exit.err`, and gives `exit.status`. -/
def emit (exit : Exit) : IO UInt32 := do
  IO.print exit.out
  (← IO.getStdout).flush
  IO.eprint exit.err
  return exit.status.toUInt32

/-- The `ReadError` for what the system said when a file could not be read. -/
def readErrorOf : IO.Error → ReadError
  | .noFileOrDirectory .. => .noSuchFile
  | .permissionDenied .. => .permissionDenied
  | .inappropriateType _ 21 _ => .isDirectory
  | .inappropriateType .. => .notDirectory
  | .otherError code details => .system details code.toNat
  | e => .system (toString e) 0

def readContents (file : String) : IO (Except ReadError ByteArray) := do
  match ← (IO.FS.readBinFile file).toBaseIO with
  | .ok contents => return .ok contents
  | .error e => return .error (readErrorOf e)

/-- Writes the messages that are pending on the console of `s`. -/
def flush (s : Shell) : IO Shell := do
  let (messages, console) := s.console.takeOutput
  let _ ← emit (.ofMessages messages)
  return { s with console }

/-- `piece` with the bytes up to the next newline, which is kept, or to the end of the input. -/
partial def readPiece (input : IO.FS.Stream) (piece : ByteArray) : IO ByteArray := do
  let more ← input.read 1
  let piece := piece ++ more
  if more.toList = [] ∨ more.toList = [10] then return piece else readPiece input piece

/-- What arrives up to the next line, in the form that `Console.readLine` takes. -/
partial def listen (input : IO.FS.Stream) : IO (List Arrival) := do
  match ← (readPiece input .empty).toBaseIO with
  | .error _ => return [.failure]
  | .ok piece =>
    match Terminal.arrivals piece.toList with
    | [.undecodable] => return .undecodable :: (← listen input)
    | arrivals => return arrivals

/-- Holds a session round by round, as `Shell.loop`, until it ends. -/
partial def converse (input : IO.FS.Stream) (s : Shell) : IO Unit := do
  match s.ready with
  | (some _, s) => discard (flush s)
  | (none, s) =>
    let s ← flush s
    let arrivals ← listen input
    match { s with console := { s.console with input := arrivals } }.serve with
    | (some _, s) => discard (flush s)
    | (none, s) => converse input (← flush s)

/-- Handles the lines of `script`, and then holds a session, as `Shell.runWithScript`. -/
def holdSession (script : List String) : IO UInt32 := do
  let shell : Shell := { console := Terminal.console [] }
  match shell.execScript script with
  | (some _, s) => discard (flush s)
  | (none, s) => converse (← IO.getStdin) (← flush s.start)
  return 0

end TurtleGraphics.CommandLine

open TurtleGraphics.CommandLine in
def main (arguments : List String) : IO UInt32 := do
  match Request.read arguments with
  | .ok (.shell none) => holdSession []
  | .ok (.shell (some file)) =>
    match scriptLines (← readContents file) with
    | .error e => emit (.readError file e)
    | .ok lines => holdSession lines
  | .ok (.check file verbose) => emit (runCheck file verbose (← readContents file))
  | request => emit (runPlain request)
