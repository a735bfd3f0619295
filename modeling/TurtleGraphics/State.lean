import TurtleGraphics.Color
import TurtleGraphics.Geometry
import TurtleGraphics.Number.Decimal

/-!
# States of the turtle

A `State` is what the turtle is at one moment: where it is, which way it faces, and its pen. It may
also stand for a rectangle, which keeps the turtle at the top left corner. The functions that change
one thing about a state all give a plain point at the same or the new position, so a rectangle is
never carried on. `State.describe` is a state in words.
-/

namespace TurtleGraphics

open Number (nearestInt64 oneDecimal)

/-- What a `State` adds to the drawing. -/
inductive Shape where
  | point (position : Point)
  | rect (rect : Rect)
  deriving BEq, Repr

structure State where
  shape : Shape
  /-- Degrees counter-clockwise from the right, of any number of turns. -/
  heading : Int64
  penDown : Bool
  color : Color
  deriving BEq, Repr

/-- The part of a circle that is one degree, in radians. -/
def radiansPerDegree : Float := 0.017453292519943295

namespace State

/-- At the origin, facing right, with a white pen that is down. -/
def initial : State :=
  { shape := .point .origin, heading := 0, penDown := true, color := .white }

/-- Where the turtle is: for a `Shape.rect`, at its top left corner. -/
def position (s : State) : Point :=
  match s.shape with
  | .point p => p
  | .rect r => r.corner

/-- The bottom right corner of a `Shape.rect`. -/
def otherCorner (s : State) : Option Point :=
  match s.shape with
  | .point _ => none
  | .rect r => some r.other

def isRect (s : State) : Bool :=
  match s.shape with
  | .point _ => false
  | .rect _ => true

/-- `s.heading` in radians, taken from its remainder between 0 and 359 degrees. -/
def radians (s : State) : Float :=
  Float.ofInt (s.heading.toInt % 360) * radiansPerDegree

/-! ## Changing a state -/

def movedTo (s : State) (position : Point) : State :=
  { s with shape := .point position }

def withHeading (s : State) (heading : Int64) : State :=
  { s with shape := .point s.position, heading }

def withPen (s : State) (penDown : Bool) : State :=
  { s with shape := .point s.position, penDown }

def withColor (s : State) (color : Color) : State :=
  { s with shape := .point s.position, color }

/-- Turns by `degrees` counter-clockwise and stops at the ends of the range of `Int64`. -/
def turned (s : State) (degrees : Int) : State :=
  s.withHeading (Int64.ofIntClamp (s.heading.toInt + degrees))

/-- Goes by `distance` in the direction `s.radians`. -/
def advanced (s : State) (distance : Float) : State :=
  s.movedTo ⟨s.position.x + distance * s.radians.cos, s.position.y + distance * s.radians.sin⟩

/-- The box from `s.position` by `width` to the right and `height` downwards. -/
def boxed (s : State) (width height : Int32) : State :=
  { s with shape := .rect (.spanned s.position width height) }

section

variable (s : State)

@[simp] theorem position_movedTo (p : Point) : (s.movedTo p).position = p := rfl

@[simp] theorem position_withHeading (h : Int64) : (s.withHeading h).position = s.position := rfl

@[simp] theorem position_withPen (b : Bool) : (s.withPen b).position = s.position := rfl

@[simp] theorem position_withColor (c : Color) : (s.withColor c).position = s.position := rfl

@[simp] theorem position_boxed (w h : Int32) :
    (s.boxed w h).position = (Rect.spanned s.position w h).corner := rfl

end

/-! ## A state in words -/

/-- The coordinates of `p`, each written by `oneDecimal`. -/
def describePoint (p : Point) : String :=
  "(" ++ oneDecimal p.x ++ ", " ++ oneDecimal p.y ++ ")"

/-- The component `c` of a color, out of 255. -/
def describeComponent (c : Float) : String :=
  toString (nearestInt64 (c * 255.0)).toInt

def describeColor (c : Color) : String :=
  "(" ++ describeComponent c.red ++ ", " ++ describeComponent c.green ++ ", "
    ++ describeComponent c.blue ++ ")"

def describe (s : State) : String :=
  "pos " ++ describePoint s.position
    ++ ", head " ++ toString s.heading.toInt
    ++ ", pen " ++ (if s.penDown then "down" else "up")
    ++ ", color " ++ describeColor s.color
    ++ match s.otherCorner with
      | none => ""
      | some p => ", rect to " ++ describePoint p

end State

end TurtleGraphics
