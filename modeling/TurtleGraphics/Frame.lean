import TurtleGraphics.State

/-!
# Pictures of a history

`render` turns a history into a `Frame`. Consecutive points with the pen down are joined to one
strip, a rectangle is a quad of its own, and both a rectangle and a point with the pen up end the
strip before them. A strip of fewer than two vertices shows nothing and is left out. The states are
taken one by one into a `Sketch`, which holds the primitives that are finished and the strip that
may still grow.
-/

namespace TurtleGraphics

structure Vertex where
  position : Point
  /-- The color of the pen when the vertex was reached. -/
  color : Color
  deriving BEq, Repr

inductive Primitive where
  /-- Segments that join each of `vertices` to the next. -/
  | strip (vertices : List Vertex)
  /-- A filled area with these `corners`. -/
  | quad (corners : Vector Point 4) (color : Color)
  deriving BEq, Repr

/-- All that is painted at once: `primitives` in this order, over `background`. -/
structure Frame where
  background : Color
  primitives : List Primitive
  deriving BEq, Repr

namespace Frame

/-- The vertices of each `Primitive.strip`. -/
def strips (f : Frame) : List (List Vertex) :=
  f.primitives.filterMap fun
    | .strip vertices => some vertices
    | .quad .. => none

/-- The corners and the color of each `Primitive.quad`. -/
def quads (f : Frame) : List (Vector Point 4 × Color) :=
  f.primitives.filterMap fun
    | .strip _ => none
    | .quad corners color => some (corners, color)

end Frame

/-- A frame under construction. Both lists have the newest entry first. -/
structure Sketch where
  finished : List Primitive
  strip : List Vertex

namespace Sketch

def blank : Sketch := ⟨[], []⟩

/-- Ends `k.strip`, which is kept if it has a segment. -/
def lift (k : Sketch) : Sketch :=
  match k.strip with
  | [] | [_] => { k with strip := [] }
  | vertices => { finished := .strip vertices.reverse :: k.finished, strip := [] }

def addQuad (k : Sketch) (corners : Vector Point 4) (color : Color) : Sketch :=
  { k with finished := .quad corners color :: k.finished }

def addVertex (k : Sketch) (v : Vertex) : Sketch :=
  { k with strip := v :: k.strip }

/-- Takes in `s`, the next state of the history. -/
def add (k : Sketch) (s : State) : Sketch :=
  match s.shape with
  | .rect r => k.lift.addQuad r.corners s.color
  | .point p => if s.penDown then k.addVertex ⟨p, s.color⟩ else k.lift

/-- The primitives in order, once no state is left and the last strip is lifted. -/
def primitives (k : Sketch) : List Primitive :=
  k.lift.finished.reverse

end Sketch

/-- The picture of `history` over `background`. -/
def render (history : List State) (background : Color) : Frame :=
  { background, primitives := (history.foldl Sketch.add .blank).primitives }

@[simp] theorem background_render (history : List State) (background : Color) :
    (render history background).background = background := rfl

@[simp] theorem primitives_render_nil (background : Color) :
    (render [] background).primitives = [] := rfl

end TurtleGraphics
