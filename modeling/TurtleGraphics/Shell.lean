import TurtleGraphics.Command
import TurtleGraphics.Console
import TurtleGraphics.Shell.Help
import TurtleGraphics.Shell.Meta

/-!
# The shell

A `Shell` joins a turtle, a window and a console. `Shell.execLine` handles one line: one that begins
with a slash is for the shell itself, any other goes to the turtle, and the window is painted again
whether the command failed or not. `Shell.run` greets, paints, and reads line after line until the
window is closed, a line asks to quit, or the input ends. The window is looked at before each line
is awaited, so a line that is awaited when the window closes is still carried out.
-/

namespace TurtleGraphics

/-- Why `Shell.run` ended. -/
inductive Ending where
  /-- A line asked for it with `Meta.quit`. -/
  | quit
  | inputEnded
  | windowExited
  deriving DecidableEq, Repr

structure Shell where
  turtle : Turtle := .fresh
  window : Window := .void
  console : Console := {}

namespace Shell

/-- The message about `Outcome.undoExhausted`. -/
def undoExhausted : String := "No more undos available"

def print (s : Shell) (text : String) : Shell :=
  { s with console := s.console.print text }

def printErr (s : Shell) (text : String) : Shell :=
  { s with console := s.console.printErr text }

/-- Paints `s.turtle.frame`. -/
def redraw (s : Shell) : Shell :=
  { s with window := s.window.display s.turtle.frame }

/-- Writes what came of a command: the text of an error, and `undoExhausted`. -/
def report (s : Shell) : Except CommandError Outcome → Shell
  | .error e => s.printErr e.message
  | .ok .undoExhausted => s.print undoExhausted
  | .ok _ => s

/-- Carries out a `Meta` command. -/
def execMeta (s : Shell) : Meta → Option Ending × Shell
  | .help => (none, s.print helpText)
  | .pos => (none, s.print ("turtle is at " ++ s.turtle.current.describe))
  | .quit => (some .quit, s)
  | .unknown text => (none, s.printErr ("unknown command /" ++ text))

/-- Handles `line`, and says whether it ends the session. -/
def execLine (s : Shell) (line : String) : Option Ending × Shell :=
  match Meta.ofLine? line with
  | some m => s.execMeta m
  | none =>
    match s.turtle.dispatchLine line with
    | (_, none) => (none, s)
    | (turtle, some answer) => (none, ({ s with turtle }.report answer).redraw)

/-- Handles lines with `execLine` until one of them ends the session. -/
def execScript (s : Shell) : List String → Option Ending × Shell
  | [] => (none, s)
  | line :: lines =>
    match s.execLine line with
    | (some ending, s) => (some ending, s)
    | (none, s) => s.execScript lines

/-- Takes the events of `s.window`, and says whether `WindowEvent.exited` is one of them. -/
def takeExit (s : Shell) : Bool × Shell :=
  let (events, window) := s.window.takeEvents
  (events.contains .exited, { s with window })

/-- Waits for a line with `Console.readLine`. Events that come before it go to `s.window`. -/
def readLine (s : Shell) : Option String × Shell :=
  let (w, console) := s.console.readLine
  (w.line, { s with console, window := w.events.foldl Window.deliver s.window })

/-- Looks at `s.window`, and writes the prompt unless it was closed. -/
def ready (s : Shell) : Option Ending × Shell :=
  let (exited, s) := s.takeExit
  if exited then (some .windowExited, s) else (none, { s with console := s.console.invite })

/-- Reads one line and handles it with `execLine`. -/
def serve (s : Shell) : Option Ending × Shell :=
  match s.readLine with
  | (none, s) => (some .inputEnded, s)
  | (some line, s) => s.execLine line

/-- One round of a session: `ready`, and then `serve`. -/
def round (s : Shell) : Option Ending × Shell :=
  match s.ready with
  | (some ending, s) => (some ending, s)
  | (none, s) => s.serve

/-! ## A session ends -/

section

variable (s : Shell)

@[simp] theorem input_redraw : s.redraw.console.input = s.console.input := rfl

@[simp] theorem input_report (answer : Except CommandError Outcome) :
    (s.report answer).console.input = s.console.input := by
  unfold report; split <;> rfl

@[simp] theorem input_execMeta (m : Meta) :
    (s.execMeta m).2.console.input = s.console.input := by
  cases m <;> rfl

@[simp] theorem input_execLine (line : String) :
    (s.execLine line).2.console.input = s.console.input := by
  unfold execLine
  split
  · simp
  · split <;> simp

@[simp] theorem input_ready : s.ready.2.console.input = s.console.input := by
  unfold ready
  dsimp only
  split
  · rfl
  · exact Console.input_invite _

end

/-- If the session goes on, `serve` has taken a line from the input. -/
theorem length_input_serve {s s' : Shell} (h : s.serve = (none, s')) :
    s'.console.input.length < s.console.input.length := by
  unfold serve at h
  split at h
  · simp at h
  · rename_i line s₁ hr
    have hi := input_execLine s₁ line
    rw [h] at hi
    simp only [readLine, Prod.mk.injEq] at hr
    rw [hi, ← hr.2]
    exact Wait.length_rest_ofArrivals hr.1

theorem length_input_round {s s' : Shell} (h : s.round = (none, s')) :
    s'.console.input.length < s.console.input.length := by
  unfold round at h
  split at h
  · simp at h
  · rename_i s₁ hr
    rw [← input_ready s, hr]
    exact length_input_serve h

/-- Goes on by `round` until the session ends. -/
def loop (s : Shell) : Ending × Shell :=
  match _h : s.round with
  | (some ending, s') => (ending, s')
  | (none, s') => s'.loop
termination_by s.console.input.length
decreasing_by exact length_input_round _h

/-- Writes the greeting of `s.console` and paints the window. -/
def start (s : Shell) : Shell :=
  (s.console.greeting.elim s s.print).redraw

/-- Starts a session with `start` and goes on with `loop` until it ends. -/
def run (s : Shell) : Ending × Shell :=
  s.start.loop

/-- Handles the lines of `script`, and then goes on with `run` unless one of them ended the
session. -/
def runWithScript (s : Shell) (script : List String) : Ending × Shell :=
  match s.execScript script with
  | (some ending, s) => (ending, s)
  | (none, s) => s.run

end Shell

end TurtleGraphics
