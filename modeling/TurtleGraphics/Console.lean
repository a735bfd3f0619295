import TurtleGraphics.ReadError
import TurtleGraphics.Window

/-!
# Consoles

A `Console` is where a shell reads its lines and writes its messages. While the shell waits for a
line, other things may arrive first: an event for the window, or bytes that are no text. A `Wait`
sorts what arrives up to the next line, and a line that is found makes the input shorter
(`Wait.length_rest_ofArrivals`). The input has ended when nothing is left or reading fails.
`Console.invite` writes the prompt, and `Console.readLine` waits and reports what had to be skipped.
-/

namespace TurtleGraphics

/-- Something that happens during `Console.readLine`. -/
inductive Arrival where
  | line (text : String)
  /-- A line came whose bytes are not the UTF-8 form of a text. -/
  | undecodable
  /-- The input could not be read. -/
  | failure
  | event (event : WindowEvent)
  deriving DecidableEq, Repr

inductive Message where
  | print (text : String)
  /-- A message about something that went wrong. A terminal writes it with `Terminal.errText`. -/
  | printErr (text : String)
  /-- A `Console.prompt`, which stays on the same line as what is entered. -/
  | prompt (text : String)
  deriving DecidableEq, Repr

/-- What `Wait.ofArrivals` makes of an input. -/
structure Wait where
  /-- The line, or `none` if the input has ended. -/
  line : Option String
  /-- The events that came before `line`. -/
  events : List WindowEvent := []
  /-- How many `Arrival.undecodable` came before `line`. -/
  skipped : Nat := 0
  /-- What has not been read. -/
  rest : List Arrival

namespace Wait

/-- Waits until an `Arrival.line` or an `Arrival.failure` comes or the input ends. -/
def ofArrivals : List Arrival → Wait
  | [] => { line := none, rest := [] }
  | .line text :: rest => { line := some text, rest }
  | .undecodable :: rest => let w := ofArrivals rest; { w with skipped := w.skipped + 1 }
  | .failure :: rest => { line := none, rest }
  | .event e :: rest => let w := ofArrivals rest; { w with events := e :: w.events }

theorem length_rest_ofArrivals {input : List Arrival} {text : String}
    (h : (ofArrivals input).line = some text) :
    (ofArrivals input).rest.length < input.length := by
  induction input with
  | nil => simp [ofArrivals] at h
  | cons a rest ih =>
    cases a with
    | line => simp [ofArrivals]
    | failure => simp [ofArrivals] at h
    | undecodable => exact Nat.lt_succ_of_lt (ih h)
    | event => exact Nat.lt_succ_of_lt (ih h)

end Wait

structure Console where
  greeting : Option String := none
  /-- What `Console.invite` writes. -/
  prompt : Option String := none
  input : List Arrival := []
  output : Link Message := {}

namespace Console

/-- The console whose input is `lines` and no event. -/
def ofLines (lines : List String) : Console :=
  { input := lines.map .line }

def send (c : Console) (m : Message) : Console :=
  { c with output := c.output.send m }

def print (c : Console) (text : String) : Console :=
  c.send (.print text)

def printErr (c : Console) (text : String) : Console :=
  c.send (.printErr text)

/-- The report of an `Arrival.undecodable`. -/
def lineSkipped : String :=
  "line skipped: " ++ ReadError.notText.message

/-- Writes `c.prompt`, if there is one. -/
def invite (c : Console) : Console :=
  c.prompt.elim c fun text => c.send (.prompt text)

/-- Waits for a line and writes `lineSkipped` for each one that had to be skipped. -/
def readLine (c : Console) : Wait × Console :=
  let w := Wait.ofArrivals c.input
  let c := (List.replicate w.skipped lineSkipped).foldl printErr c
  (w, { c with input := w.rest })

/-- Takes every message that is pending on `c.output`. -/
def takeOutput (c : Console) : List Message × Console :=
  (c.output.pending, { c with output := c.output.emptied })

section

variable (c : Console) (text : String)

@[simp] theorem input_send (m : Message) : (c.send m).input = c.input := rfl

@[simp] theorem input_print : (c.print text).input = c.input := rfl

@[simp] theorem input_printErr : (c.printErr text).input = c.input := rfl

@[simp] theorem input_invite : c.invite.input = c.input := by
  unfold invite; cases c.prompt <;> rfl

@[simp] theorem input_readLine :
    c.readLine.2.input = (Wait.ofArrivals c.input).rest := rfl

end

end Console

end TurtleGraphics
