import TurtleGraphics.Command
import TurtleGraphics.ReadError
import TurtleGraphics.Shell.Meta
import TurtleGraphics.Text.Lines

/-!
# Scripts

A script is a text with one command on each line. `Script.ofBytes` reads it from the contents of a
file. `Script.check` runs it on a fresh turtle and stops at the first line that fails. Blank lines
and lines for the shell are passed over and still count.
-/

namespace TurtleGraphics

open Text (lines)

/-- The first line of a script that failed. `line` is counted from one. -/
structure ScriptError where
  line : Nat
  error : CommandError
  deriving DecidableEq, Repr

def ScriptError.message (e : ScriptError) : String :=
  e.error.message ++ " at line " ++ toString e.line

namespace Script

/-- The lines of a script, where `contents` are those of its file. -/
def ofBytes (contents : ByteArray) : Except ReadError (List String) :=
  match String.fromUTF8? contents with
  | some text => .ok (lines text)
  | none => .error .notText

/-- Runs lines on `t`, the first of them with the number `number`. -/
def checkLines (t : Turtle) (number : Nat) : List String → Except ScriptError Turtle
  | [] => .ok t
  | line :: rest =>
    if (Meta.ofLine? line).isSome then checkLines t (number + 1) rest
    else
      match t.dispatchLine line with
      | (_, some (.error e)) => .error ⟨number, e⟩
      | (t, _) => checkLines t (number + 1) rest

/-- Runs the lines of `text` on `Turtle.fresh`. -/
def check (text : String) : Except ScriptError Turtle :=
  checkLines .fresh 1 (lines text)

end Script

end TurtleGraphics
