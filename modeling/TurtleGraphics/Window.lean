import TurtleGraphics.Frame
import TurtleGraphics.Link

/-!
# Windows

A window is told what to paint one `Paint` at a time, and a frame is painted by the sequence
`Frame.paints`. A channel window passes the instructions on over one link and reads its events from
another. The void window shows nothing and never has an event. A window may also be wrapped, and
then hands everything on to the one inside.
-/

namespace TurtleGraphics

/-- An instruction to whoever paints a window. -/
inductive Paint where
  | clear (color : Color)
  | strip (vertices : List Vertex)
  | quad (corners : Vector Point 4) (color : Color)
  /-- Show all that was painted since the last `clear`. -/
  | present
  deriving BEq, Repr

def Primitive.paint : Primitive → Paint
  | .strip vertices => .strip vertices
  | .quad corners color => .quad corners color

/-- The instructions that paint `f`: a `clear`, its primitives, and a `present`. -/
def Frame.paints (f : Frame) : List Paint :=
  .clear f.background :: f.primitives.map Primitive.paint ++ [.present]

inductive WindowEvent where
  /-- The window was closed. -/
  | exited
  deriving DecidableEq, Repr

/-- The two links of a `Window.channel`. -/
structure Channel where
  paints : Link Paint := {}
  events : Link WindowEvent := {}
  deriving Repr

inductive Window where
  | void
  | channel (channel : Channel)
  | wrapped (inner : Window)
  deriving Repr

namespace Window

/-- The channel of a window, which `Window.void` has not. -/
def channel? : Window → Option Channel
  | .void => none
  | .channel c => some c
  | .wrapped w => w.channel?

/-- Changes the channel of a window by `f`, if it has one. -/
def mapChannel (f : Channel → Channel) : Window → Window
  | .void => .void
  | .channel c => .channel (f c)
  | .wrapped w => .wrapped (w.mapChannel f)

@[simp] theorem channel?_mapChannel (f : Channel → Channel) (w : Window) :
    (w.mapChannel f).channel? = w.channel?.map f := by
  induction w with
  | void => rfl
  | channel c => rfl
  | wrapped w ih => exact ih

@[simp] theorem mapChannel_mapChannel (f g : Channel → Channel) (w : Window) :
    (w.mapChannel f).mapChannel g = w.mapChannel fun c => g (f c) := by
  induction w with
  | void => rfl
  | channel c => rfl
  | wrapped w ih => exact congrArg wrapped ih

/-! ## Calls of the program -/

/-- Passes `p` on, if the window has a channel. -/
def issue (w : Window) (p : Paint) : Window :=
  w.mapChannel fun c => { c with paints := c.paints.send p }

/-- Passes the instructions of `f` on, in place of what was shown before. -/
def display (w : Window) (f : Frame) : Window :=
  f.paints.foldl issue w

/-- Takes every event that is pending on the channel of `w`. -/
def takeEvents (w : Window) : List WindowEvent × Window :=
  match w.channel? with
  | none => ([], w)
  | some c => (c.events.pending, w.mapChannel fun c => { c with events := c.events.emptied })

/-! ## Calls of those who look at the window -/

/-- Sends the event `e` to the window. -/
def deliver (w : Window) (e : WindowEvent) : Window :=
  w.mapChannel fun c => { c with events := c.events.send e }

/-- Takes every instruction that `issue` has passed on. -/
def takePaints (w : Window) : List Paint × Window :=
  match w.channel? with
  | none => ([], w)
  | some c => (c.paints.pending, w.mapChannel fun c => { c with paints := c.paints.emptied })

/-- Closes the sending end of the events: `deliver` sends nothing any more. -/
def closeEvents (w : Window) : Window :=
  w.mapChannel fun c => { c with events := c.events.closeSender }

/-- Closes the receiving end of the instructions: nothing that `issue` passes on is kept any
more. -/
def closePaints (w : Window) : Window :=
  w.mapChannel fun c => { c with paints := c.paints.closeReceiver }

end Window

end TurtleGraphics
