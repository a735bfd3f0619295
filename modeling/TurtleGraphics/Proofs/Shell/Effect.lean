import TurtleGraphics.Shell

/-!
# What a line does in a shell

Of all that a shell holds, only the turtle decides what a line does. `Turtle.effect` is that as a
value: whether the session ends, the turtle after it, the messages, and the frames to paint.

* `Shell.execLine_eq`: a shell handles a line by carrying its effect out on the window and the
  console, whatever these are;
* `Shell.said_eq`: what is heard of a line are the messages of its effect.
-/

namespace TurtleGraphics

/-- All that a line does: the ending, the `turtle` afterwards, the `messages` and the `frames`. -/
structure Effect where
  ending : Option Ending := none
  /-- The turtle behind the line. -/
  turtle : Turtle
  messages : List Message := []
  /-- The frames that are displayed, in order. -/
  frames : List Frame := []

/-- The messages of `Shell.report` for the answer of `Turtle.dispatchLine`. -/
def answerMessages : Except CommandError Outcome → List Message
  | .error e => [.printErr e.message]
  | .ok .undoExhausted => [.print Shell.undoExhausted]
  | .ok _ => []

namespace Turtle

/-- What `Shell.execMeta` does. -/
def metaEffect (t : Turtle) : Meta → Effect
  | .help => { turtle := t, messages := [.print Shell.helpText] }
  | .pos => { turtle := t, messages := [.print ("turtle is at " ++ t.current.describe)] }
  | .quit => { ending := some .quit, turtle := t }
  | .unknown text => { turtle := t, messages := [.printErr ("unknown command /" ++ text)] }

/-- What `Shell.execLine` does in a shell with the turtle `t`. -/
def effect (t : Turtle) (line : String) : Effect :=
  match Meta.ofLine? line with
  | some m => t.metaEffect m
  | none =>
    match t.dispatchLine line with
    | (_, none) => { turtle := t }
    | (t', some answer) =>
      { turtle := t', messages := answerMessages answer, frames := [t'.frame] }

end Turtle

theorem Console.output_foldl_send (c : Console) (ms : List Message) :
    (ms.foldl send c).output = ms.foldl Link.send c.output := by
  induction ms generalizing c with
  | nil => rfl
  | cons m ms ih => exact ih (c.send m)

namespace Shell

/-- The shell after `e`: the new turtle, with the messages and the frames sent. -/
def after (s : Shell) (e : Effect) : Shell :=
  { turtle := e.turtle
    window := e.frames.foldl Window.display s.window
    console := e.messages.foldl Console.send s.console }

theorem execMeta_eq (s : Shell) (m : Meta) :
    s.execMeta m = ((s.turtle.metaEffect m).ending, s.after (s.turtle.metaEffect m)) := by
  cases m <;> rfl

theorem report_eq (s : Shell) (answer : Except CommandError Outcome) :
    s.report answer =
      { s with console := (answerMessages answer).foldl Console.send s.console } := by
  cases answer with
  | error e => rfl
  | ok outcome => cases outcome <;> rfl

/-- `execLine` carries out the `Turtle.effect` of `line`. -/
theorem execLine_eq (s : Shell) (line : String) :
    s.execLine line = ((s.turtle.effect line).ending, s.after (s.turtle.effect line)) := by
  rw [execLine, Turtle.effect]
  cases Meta.ofLine? line with
  | some m => exact execMeta_eq s m
  | none =>
    obtain ⟨t, answer⟩ := s.turtle.dispatchLine line
    cases answer with
    | none => rfl
    | some answer =>
      dsimp only
      rw [report_eq]
      rfl

/-- The messages that `execLine` sends for `line`. -/
def said (s : Shell) (line : String) : List Message :=
  ({ s with console.output := {} }.execLine line).2.console.output.pending

theorem said_eq (s : Shell) (line : String) : s.said line = (s.turtle.effect line).messages := by
  rw [said, execLine_eq, after, Console.output_foldl_send, Link.pending_foldl_send rfl rfl]
  rfl

/-- A line that is not for the shell itself says the `answerMessages` of its answer, if it gets
one. -/
theorem said_of_command {s : Shell} {line : String} (h : Meta.ofLine? line = none) :
    s.said line = (s.turtle.dispatchLine line).2.elim [] answerMessages := by
  rw [said_eq, Turtle.effect, h]
  obtain ⟨t, answer⟩ := s.turtle.dispatchLine line
  cases answer <;> rfl

/-- `execLine` changes the console by sending the messages of `said`, and in no other way. -/
theorem console_execLine (s : Shell) (line : String) :
    (s.execLine line).2.console = (s.said line).foldl Console.send s.console := by
  rw [execLine_eq, said_eq, after]

/-- A `Meta` command leaves `s.turtle` as it is. -/
theorem turtle_execLine_of_meta {s : Shell} {line : String} {m : Meta}
    (h : Meta.ofLine? line = some m) : (s.execLine line).2.turtle = s.turtle := by
  rw [execLine_eq, Turtle.effect, h]
  cases m <;> rfl

/-- Any other line leaves the turtle of `Turtle.dispatchLine`. -/
theorem turtle_execLine {s : Shell} {line : String} (h : Meta.ofLine? line = none) :
    (s.execLine line).2.turtle = (s.turtle.dispatchLine line).1 := by
  rw [execLine_eq, Turtle.effect, h, Turtle.dispatchLine]
  cases Command.ofLine? line <;> rfl

end Shell

end TurtleGraphics
