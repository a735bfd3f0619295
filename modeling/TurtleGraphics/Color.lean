import TurtleGraphics.Number.Double

/-!
# Colors

A color has three components, and the ones that can be shown lie between 0 and 1. `Color.rgb` scales
components given out of 255 and takes any integer, in that range or not.
-/

namespace TurtleGraphics

open Number (ofInt32)

structure Color where
  red : Float
  green : Float
  blue : Float
  deriving BEq, Repr

namespace Color

def white : Color := ⟨1.0, 1.0, 1.0⟩

def black : Color := ⟨0.0, 0.0, 0.0⟩

/-- The color with the components `red / 255`, `green / 255` and `blue / 255`. -/
def rgb (red green blue : Int32) : Color :=
  ⟨ofInt32 red / 255.0, ofInt32 green / 255.0, ofInt32 blue / 255.0⟩

end Color

end TurtleGraphics
