import TurtleGraphics.Console
import TurtleGraphics.Text.Lines

/-!
# The terminal

The terminal is the console of a program at work. Its input is a stream of bytes, which is cut into
lines before it is decoded, so a line that is no text spoils none of its neighbours. Its messages go
to two streams: what went wrong to the error stream, and all the rest to the output stream.
-/

namespace TurtleGraphics

open Text (cutLines)

/-- The version that `Terminal.greeting` tells. -/
def version : String := "0.1.0"

namespace Terminal

def greeting : String :=
  "logo shell v" ++ version ++ "\nenter '/help' to view available commands"

def prompt : String := "> "

/-- The text whose UTF-8 form is `line`, as an `Arrival.line`, or `Arrival.undecodable` without
one. -/
def arrivalOf (line : List UInt8) : Arrival :=
  match String.fromUTF8? ⟨line.toArray⟩ with
  | some text => .line text
  | none => .undecodable

/-- What `bytes` bring, line by line. -/
def arrivals (bytes : List UInt8) : List Arrival :=
  (cutLines 10 13 bytes).map arrivalOf

/-- The console at a terminal where `input` arrives. -/
def console (input : List Arrival) : Console :=
  { greeting := some greeting, prompt := some prompt, input }

/-- What a message adds to the output stream. -/
def outText : Message → String
  | .print text => text ++ "\n"
  | .prompt text => text
  | .printErr _ => ""

/-- What a message adds to the error stream. -/
def errText : Message → String
  | .print _ | .prompt _ => ""
  | .printErr text => text ++ "\n"

end Terminal

end TurtleGraphics
