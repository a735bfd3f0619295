import TurtleGraphics.Number.Double

/-!
# Points and boxes

The plane has its origin in the middle, the first coordinate to the right and the second upwards. A
`Rect` is a box along the axes, kept by its top left and its bottom right corner. `Rect.spanned`
spans one from a point by a width to the right and a height downwards, and negative sizes flip it
over that point. `Rect.corners` lists its corners in drawing order.
-/

namespace TurtleGraphics

open Number (larger ofInt32 smaller)

structure Point where
  x : Float
  y : Float
  deriving BEq, Repr

def Point.origin : Point := ⟨0.0, 0.0⟩

structure Rect where
  /-- The top left corner. -/
  corner : Point
  /-- The bottom right corner. -/
  other : Point
  deriving BEq, Repr

namespace Rect

/-- The box from `start` by `width` to the right and `height` downwards. -/
def spanned (start : Point) (width height : Int32) : Rect :=
  let x := start.x + ofInt32 width
  let y := start.y - ofInt32 height
  { corner := ⟨smaller start.x x, larger start.y y⟩
    other := ⟨larger start.x x, smaller start.y y⟩ }

def left (r : Rect) : Float := r.corner.x

def right (r : Rect) : Float := r.other.x

def top (r : Rect) : Float := r.corner.y

def bottom (r : Rect) : Float := r.other.y

/-- The corners of `r`, counter-clockwise from the bottom right one. -/
def corners (r : Rect) : Vector Point 4 :=
  #v[⟨r.right, r.bottom⟩, ⟨r.right, r.top⟩, ⟨r.left, r.top⟩, ⟨r.left, r.bottom⟩]

end Rect

end TurtleGraphics
