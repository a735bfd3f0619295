import TurtleGraphics.Frame

/-!
# The turtle and its history

A turtle is its current state, the states before it, and the background of the drawing. A `Move`
adds one state. `Op` adds to the moves what does not: the background, the reset and the undo, which
takes the newest state back and resets the turtle if there is no other left. `Turtle.apply` carries
out an operation and says what it did.
-/

namespace TurtleGraphics

open Number (ofInt32)

/-- An operation that adds one state to the history. -/
inductive Move where
  | moveTo (x y : Int32)
  | face (degrees : Int32)
  | forward (distance : Int32)
  | back (distance : Int32)
  | turnLeft (degrees : Int32)
  | turnRight (degrees : Int32)
  | penUp
  | penDown
  | penColor (red green blue : Int32)
  | rectangle (width height : Int32)
  deriving DecidableEq, Repr

/-- The state that a move leads to from `s`. -/
def Move.next (s : State) : Move → State
  | .moveTo x y => s.movedTo ⟨ofInt32 x, ofInt32 y⟩
  | .face degrees => s.withHeading degrees.toInt64
  | .forward distance => s.advanced (ofInt32 distance)
  | .back distance => s.advanced (-ofInt32 distance)
  | .turnLeft degrees => s.turned degrees.toInt
  | .turnRight degrees => s.turned (-degrees.toInt)
  | .penUp => s.withPen false
  | .penDown => s.withPen true
  | .penColor red green blue => s.withColor (.rgb red green blue)
  | .rectangle width height => s.boxed width height

inductive Op where
  | draw (move : Move)
  | background (red green blue : Int32)
  | reset
  | undo
  deriving DecidableEq, Repr

/-- What `Turtle.apply` did to the turtle. -/
inductive Outcome where
  /-- One state was added to `Turtle.history`. -/
  | appended
  /-- `Turtle.background` was changed and nothing else. -/
  | background
  | reset
  /-- The newest state was taken back. -/
  | undone
  /-- No state was left to go back to, and the turtle was reset to `Turtle.fresh`. -/
  | undoExhausted
  deriving DecidableEq, Repr

structure Turtle where
  current : State
  /-- The states before `current`, the newest first. -/
  earlier : List State
  background : Color
  deriving BEq, Repr

namespace Turtle

def fresh : Turtle :=
  { current := .initial, earlier := [], background := .black }

/-- The states of `t.earlier` and `t.current`, the oldest first. -/
def history (t : Turtle) : List State :=
  t.earlier.reverse ++ [t.current]

/-- The picture of `t.history` over `t.background`. -/
def frame (t : Turtle) : Frame :=
  render t.history t.background

/-- Adds `s` to the history. -/
def push (t : Turtle) (s : State) : Turtle :=
  { t with current := s, earlier := t.current :: t.earlier }

/-- `t` without its newest state, if another one is left. -/
def pop? (t : Turtle) : Option Turtle :=
  match t.earlier with
  | [] => none
  | s :: earlier => some { t with current := s, earlier }

def draw (t : Turtle) (m : Move) : Turtle :=
  t.push (m.next t.current)

/-- The turtle after an operation, and what the operation did. -/
def apply (t : Turtle) : Op → Turtle × Outcome
  | .draw m => (t.draw m, .appended)
  | .background red green blue => ({ t with background := .rgb red green blue }, .background)
  | .reset => (fresh, .reset)
  | .undo =>
    match t.pop? with
    | some t => (t, .undone)
    | none => (fresh, .undoExhausted)

/-- The turtle after `ops`, one after the other. -/
def run (t : Turtle) (ops : List Op) : Turtle :=
  ops.foldl (fun t op => (t.apply op).1) t

/-! ## The history under the operations -/

@[simp] theorem history_fresh : fresh.history = [.initial] := rfl

@[simp] theorem history_push (t : Turtle) (s : State) : (t.push s).history = t.history ++ [s] := by
  simp [history, push]

theorem history_ne_nil (t : Turtle) : t.history ≠ [] := by
  simp [history]

@[simp] theorem length_history (t : Turtle) : t.history.length = t.earlier.length + 1 := by
  simp [history]

@[simp] theorem getLast_history (t : Turtle) : t.history.getLast t.history_ne_nil = t.current := by
  simp [history]

@[simp] theorem pop?_push (t : Turtle) (s : State) : (t.push s).pop? = some t := rfl

@[simp] theorem background_push (t : Turtle) (s : State) :
    (t.push s).background = t.background := rfl

end Turtle

end TurtleGraphics
