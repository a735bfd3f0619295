import TurtleGraphics.CommandLine.Request
import TurtleGraphics.Script
import TurtleGraphics.Shell
import TurtleGraphics.Terminal

/-!
# The program

`run` is the program as a function: its arguments, the files that it may read and what is entered at
the terminal determine its exit status and what it writes, the records of its `Log` aside. The parts
of it, from a script to a session, are functions of their own for a program that talks while it
runs. The text of `usage` is this library's own: only the status 0 of a request for help is fixed.
-/

namespace TurtleGraphics.CommandLine

/-- How a run of the program ended and what it wrote. Records of the `Log` are not part of `err`,
though a program that shows them may use the same stream. -/
structure Exit where
  status : UInt8
  out : String := ""
  err : String := ""
  deriving DecidableEq, Repr

def usage : String :=
  "Usage: logo <COMMAND>\n\nCommands:\n"
    ++ "  shell [--window void] [--script FILE]  start the interactive turtle shell\n"
    ++ "  check [--verbose] FILE                 check every line of a command file\n"
    ++ "  help                                   show this help\n"

/-- The status 2 of arguments for which `Request.read` gives `e`. -/
def Exit.usageError (e : UsageError) : Exit :=
  { status := 2, err := "error: " ++ e.message ++ "\n" }

/-- The status 1 of a run that could not read `file` because of `e`. -/
def Exit.readError (file : String) (e : ReadError) : Exit :=
  { status := 1, err := "could not read " ++ file ++ ": " ++ e.message ++ "\n" }

/-- The status 0 of a session, with the `Terminal.outText` and `Terminal.errText` of its
messages. -/
def Exit.ofMessages (messages : List Message) : Exit :=
  { status := 0
    out := String.join (messages.map Terminal.outText)
    err := String.join (messages.map Terminal.errText) }

/-- The lines of a script, where `contents` is what came of reading its file. -/
def scriptLines (contents : Except ReadError ByteArray) : Except ReadError (List String) :=
  contents.bind Script.ofBytes

/-- The run for `Request.check`, where `contents` is what came of reading `file`. -/
def runCheck (file : String) (verbose : Bool) (contents : Except ReadError ByteArray) : Exit :=
  match scriptLines contents with
  | .error e => .readError file e
  | .ok lines =>
    match Script.check ("\n".intercalate lines) with
    | .error e => { status := 1, err := "invalid command file: " ++ e.message ++ "\n" }
    | .ok t =>
      if verbose then { status := 0, out := "turtle ends at " ++ t.current.describe ++ "\n" }
      else { status := 0 }

/-- The lines of the file `script`, or none without one. If `files` has no text for it, the `Exit`
of the run. -/
def preload (script : Option String) (files : String → Except ReadError ByteArray) :
    Except Exit (List String) :=
  match script with
  | none => .ok []
  | some file => (scriptLines (files file)).mapError (Exit.readError file)

/-- The run for `Request.shell`: `Shell.runWithScript` at a terminal where `input` arrives. -/
def runShell (script : Option String) (files : String → Except ReadError ByteArray)
    (input : List Arrival) : Exit :=
  match preload script files with
  | .error exit => exit
  | .ok lines =>
    let shell : Shell := { console := Terminal.console input }
    .ofMessages (shell.runWithScript lines).2.console.output.pending

/-- The run for a request that needs no file and no terminal. -/
def runPlain : Except UsageError Request → Exit
  | .error e => .usageError e
  | .ok .version => { status := 0, out := "logo " ++ version ++ "\n" }
  | .ok _ => { status := 0, out := usage }

/-- The program: `files` is what comes of reading a file, and `input` what arrives at the terminal.
It is determined up to its `Log`. -/
def run (arguments : List String) (files : String → Except ReadError ByteArray)
    (input : List Arrival) : Exit :=
  match Request.read arguments with
  | .ok (.check file verbose) => runCheck file verbose (files file)
  | .ok (.shell script) => runShell script files input
  | request => runPlain request

end TurtleGraphics.CommandLine
