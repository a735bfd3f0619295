import TurtleGraphics.Command
import TurtleGraphics.Console

/-!
# The log

Each command and each picture leaves an `Event` in the log. A command that was carried out is
recorded with its integers, its outcome and the length of the history, so the drawing can be made
again from these events alone. A failed command is recorded with its words. A reset and an undo that
found nothing to take back are announced before the command itself. Waiting for a line leaves a
`Reading` for each line that cannot be decoded and for an input that cannot be read.
-/

namespace TurtleGraphics.Log

inductive Level where
  | trace
  | debug
  | info
  | warn
  deriving DecidableEq, Repr

inductive Event where
  /-- The drawing was thrown away when its history held `states` states. -/
  | drawingReset (states : Nat)
  | noMoreUndos
  /-- `command` was carried out, and the history is now `history` states long. -/
  | commandApplied (command : Command) (outcome : Outcome) (history : Nat)
  | unrecognized (input : String)
  | malformed (input : String) (cause : ParamError)
  | frameRendered (states primitives : Nat)
  deriving DecidableEq, Repr

namespace Event

def level : Event → Level
  | .drawingReset _ | .noMoreUndos => .info
  | .commandApplied .. => .debug
  | .unrecognized _ | .malformed .. => .warn
  | .frameRendered .. => .trace

/-- The part of the program that an event comes from, a path of names. -/
def origin : Event → String
  | .drawingReset _ | .noMoreUndos => "turtle"
  | .commandApplied .. | .unrecognized _ | .malformed .. => "commands"
  | .frameRendered .. => "render"

def message : Event → String
  | .drawingReset _ => "drawing reset"
  | .noMoreUndos => "no more undos available"
  | .commandApplied .. => "command applied"
  | .unrecognized _ => "unrecognized command"
  | .malformed .. => "malformed command"
  | .frameRendered .. => "frame rendered"

/-- The text of the field `applied` of an `Event.commandApplied`. -/
def outcomeName : Outcome → String
  | .appended => "Appended"
  | .background => "Background"
  | .reset => "Reset"
  | .undone => "Undone"
  | .undoExhausted => "UndoExhausted"

/-- The text of the field `args` of an `Event.commandApplied`. -/
def argsText (args : List Int32) : String :=
  "[" ++ ", ".intercalate (args.map fun n => toString n.toInt) ++ "]"

/-- The texts of the values that an event carries, by name. -/
def fields : Event → List (String × String)
  | .drawingReset states => [("states", toString states)]
  | .noMoreUndos => []
  | .commandApplied command outcome history =>
    [("cmd", command.verb.token), ("args", argsText command.args.toList),
      ("applied", outcomeName outcome), ("history", toString history)]
  | .unrecognized input => [("input", input)]
  | .malformed input cause => [("input", input), ("cause", cause.message)]
  | .frameRendered states primitives =>
    [("states", toString states), ("primitives", toString primitives)]

end Event

/-- The announcements of an operation on `t`. An `Op.undo` has taken the last state back before it
finds that none is left, so its `drawingReset` is of no states. -/
def ofOp (t : Turtle) : Op → List Event
  | .draw _ | .background .. => []
  | .reset => [.drawingReset t.history.length]
  | .undo => if t.pop?.isSome then [] else [.drawingReset 0, .noMoreUndos]

/-- The events of `Turtle.execute` on `t`. -/
def ofCommand (t : Turtle) : Except CommandError Command → List Event
  | .error (.unrecognized input) => [.unrecognized input]
  | .error (.malformed input cause) => [.malformed input cause]
  | .ok c =>
    let (t', outcome) := t.apply c.op
    ofOp t c.op ++ [.commandApplied c outcome t'.history.length]

/-- The events of `t.dispatchLine line`. -/
def ofLine (t : Turtle) (line : String) : List Event :=
  match Command.ofLine? line with
  | none => []
  | some command => ofCommand t command

/-- The event of rendering `t.frame`. -/
def ofFrame (t : Turtle) : Event :=
  .frameRendered t.history.length t.frame.primitives.length

/-- The events of each of a sequence of lines. If `frames`, the turtle is rendered after every
line. -/
def ofLines (frames : Bool) (t : Turtle) : List String → List (List Event)
  | [] => []
  | line :: lines =>
    let t' := (t.dispatchLine line).1
    (ofLine t line ++ if frames then [ofFrame t'] else []) :: ofLines frames t' lines

/-! ## Waiting for a line -/

/-- How urgent a `Reading` is. -/
inductive Severity where
  | level (level : Level)
  /-- The level above every `Level`. -/
  | error
  deriving DecidableEq, Repr

/-- An event of waiting for a line. -/
inductive Reading where
  /-- A line that is `Arrival.undecodable` was skipped. -/
  | lineSkipped
  /-- The input is over because of an `Arrival.failure`, for this reason. -/
  | inputFailed (cause : ReadError)
  deriving DecidableEq, Repr

namespace Reading

def severity : Reading → Severity
  | .lineSkipped => .level .warn
  | .inputFailed _ => .error

/-- The part of the program that waits for lines, as in `Event.origin`. -/
def origin : String := "interface::terminal"

def message : Reading → String
  | .lineSkipped => "skipping undecodable line: " ++ ReadError.notText.message
  | .inputFailed cause => "could not read input: " ++ cause.message

/-- What is written to the console beside the event. -/
def report? : Reading → Option String
  | .lineSkipped => some Console.lineSkipped
  | .inputFailed _ => none

end Reading

/-- The events of `Wait.ofArrivals`, where `cause` is what the system says of an
`Arrival.failure`. -/
def ofArrivals (cause : ReadError) : List Arrival → List Reading
  | [] | .line _ :: _ => []
  | .undecodable :: rest => .lineSkipped :: ofArrivals cause rest
  | .failure :: _ => [.inputFailed cause]
  | .event _ :: rest => ofArrivals cause rest

end TurtleGraphics.Log
