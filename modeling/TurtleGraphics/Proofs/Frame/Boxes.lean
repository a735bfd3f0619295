import TurtleGraphics.Proofs.Frame.Growth
import TurtleGraphics.Proofs.Number.Order
import TurtleGraphics.Proofs.Number.Sum
import TurtleGraphics.Proofs.Turtle.Path

/-!
# Boxes are never inverted

A rectangle lies in any of the four quarters around the turtle, by the signs of its sizes, and is
kept by its top left and bottom right corners. Along each axis they are the smaller and the larger
of two numbers. Only of the two zeros neither is the smaller one, and the negative zero does not
come up: no move leads a turtle to it (`Point.Plain`).

* `Rect.spans_spanned`: the sides are in order, and the starting point is at a corner;
* `Rect.Spans.outline_corners`: the corners go counter-clockwise around the box;
* `Move.plain_next`: no move leads to a negative zero;
* `Turtle.forall_mem_history_run`: what every move keeps is true of every state;
* `Turtle.frame_push_rect`: a box adds its quad to the picture;
* `Turtle.rectangle_spans`: all of this for the rectangles of a run.
-/

namespace TurtleGraphics

open Number

/-- Neither coordinate is the negative zero. -/
structure Point.Plain (p : Point) : Prop where
  x : p.x ≠ -0.0
  y : p.y ≠ -0.0

/-! ## The box between two points -/

namespace Rect

/-- The box lies between `p` and `q`, which are opposite corners of it. -/
structure Spans (r : Rect) (p q : Point) : Prop where
  sides : Sorts p.x q.x r.left r.right
  levels : Sorts p.y q.y r.bottom r.top

/-- The points `cs` are the corners of `r`, counter-clockwise from the bottom right one, and each
has a coordinate in common with the next. -/
structure Outline (r : Rect) (cs : Vector Point 4) : Prop where
  start : cs[0] = ⟨r.right, r.bottom⟩
  mem_iff : ∀ p, p ∈ cs ↔ (p.x = r.left ∨ p.x = r.right) ∧ (p.y = r.bottom ∨ p.y = r.top)
  up : cs[1].x = cs[0].x ∧ cs[0].y ≤ cs[1].y
  leftwards : cs[2].y = cs[1].y ∧ cs[2].x ≤ cs[1].x
  down : cs[3].x = cs[2].x ∧ cs[3].y ≤ cs[2].y
  back : cs[0].y = cs[3].y ∧ cs[3].x ≤ cs[0].x

theorem spans_spanned {p : Point} (hp : p.Plain) (hx : p.x.isNaN = false) (hy : p.y.isNaN = false)
    (w h : Int32) : (spanned p w h).Spans p ⟨p.x + ofInt32 w, p.y - ofInt32 h⟩ := by
  have hw := isOffset_add p.x (ofInt32 w)
  have hh := isOffset_sub p.y (ofInt32 h)
  constructor
  · exact sorts_smaller_larger hx (hw.isNaN hx (isFinite_ofInt32 w)) hp.x (hw.ne_negativeZero hp.x)
  · exact sorts_smaller_larger hy (hh.isNaN hy (isFinite_ofInt32 h)) hp.y (hh.ne_negativeZero hp.y)

theorem mem_corners {r : Rect} {p : Point} :
    p ∈ r.corners ↔ (p.x = r.left ∨ p.x = r.right) ∧ (p.y = r.bottom ∨ p.y = r.top) := by
  obtain ⟨x, y⟩ := p
  simp only [corners, Vector.mem_mk, List.mem_toArray, List.mem_cons, List.not_mem_nil, or_false,
    Point.mk.injEq]
  tauto

namespace Spans

variable {r : Rect} {p q : Point}

theorem mem_corners (h : r.Spans p q) : p ∈ r.corners :=
  Rect.mem_corners.2 ⟨h.sides.eq_or_eq, h.levels.eq_or_eq⟩

theorem outline_corners (h : r.Spans p q) : r.Outline r.corners where
  start := rfl
  mem_iff _ := Rect.mem_corners
  up := ⟨rfl, h.levels.le⟩
  leftwards := ⟨rfl, h.sides.le⟩
  down := ⟨rfl, h.levels.le⟩
  back := ⟨rfl, h.sides.le⟩

end Spans

end Rect

/-! ## The places that a turtle comes to -/

theorem Point.plain_origin : Point.origin.Plain := ⟨by decide, by decide⟩

theorem Point.Plain.corner_spanned {p : Point} (hp : p.Plain) (w h : Int32) :
    (Rect.spanned p w h).corner.Plain where
  x := by
    rcases smaller_eq p.x (p.x + ofInt32 w) with he | he <;> rw [Rect.spanned, he]
    · exact hp.x
    · exact (isOffset_add _ _).ne_negativeZero hp.x
  y := by
    rcases larger_eq p.y (p.y - ofInt32 h) with he | he <;> rw [Rect.spanned, he]
    · exact hp.y
    · exact (isOffset_sub _ _).ne_negativeZero hp.y

theorem Move.plain_next {s : State} (h : s.position.Plain) (m : Move) :
    (m.next s).position.Plain := by
  cases m with
  | moveTo x y => exact ⟨ofInt32_ne_negativeZero x, ofInt32_ne_negativeZero y⟩
  | forward | back =>
    exact ⟨(isOffset_add _ _).ne_negativeZero h.x, (isOffset_add _ _).ne_negativeZero h.y⟩
  | face | turnLeft | turnRight | penUp | penDown | penColor => exact h
  | rectangle width height => exact h.corner_spanned width height

namespace Turtle

theorem forall_mem_path {P : State → Prop} (step : ∀ s m, P s → P (Move.next s m)) {s : State}
    (h : P s) (ms : List Move) : ∀ s' ∈ path s ms, P s' := by
  induction ms generalizing s with
  | nil => simpa [path] using h
  | cons m ms ih =>
    rw [path, List.scanl_cons]
    exact List.forall_mem_cons.2 ⟨h, ih (step s m h)⟩

/-- What is true of `State.initial` and kept by every `Move.next` is true of every state in the
history of a run. -/
theorem forall_mem_history_run {P : State → Prop} (initial : P .initial)
    (step : ∀ s m, P s → P (Move.next s m)) (ops : List Op) :
    ∀ s ∈ (fresh.run ops).history, P s := by
  rw [history_run_fresh]
  exact forall_mem_path step initial _

theorem current_mem_history (t : Turtle) : t.current ∈ t.history := by
  simp [history]

theorem plain_run (ops : List Op) : (fresh.run ops).current.position.Plain :=
  forall_mem_history_run (P := fun s => s.position.Plain) Point.plain_origin
    (fun _ m h => m.plain_next h) ops _ (current_mem_history _)

theorem frame_push_rect (t : Turtle) {s : State} {r : Rect} (h : s.shape = .rect r) :
    (t.push s).frame =
      { t.frame with primitives := t.frame.primitives ++ [.quad r.corners s.color] } := by
  have hb : s.breaks = true := by simp [State.breaks, State.isRect, h]
  rw [frame, history_push, render, List.foldl_concat, Sketch.primitives_add_of_breaks hb,
    Stretch.primitive?, h]
  rfl

/-- Where no coordinate of the turtle is NaN, a rectangle of any sizes adds one state, a box `r`
that `Spans` from that place to the opposite corner. Its sides are in order, the turtle is then at
its top left corner, and the picture gets a quad whose corners `Outline` it, counter-clockwise from
the bottom right one. -/
theorem rectangle_spans (ops : List Op) (w h : Int32)
    (hx : (fresh.run ops).current.position.x.isNaN = false)
    (hy : (fresh.run ops).current.position.y.isNaN = false) :
    let t := fresh.run ops
    let p := t.current.position
    ∃ t' r, t.apply (.draw (.rectangle w h)) = (t', .appended) ∧
      t'.history = t.history ++ [{ t.current with shape := .rect r }] ∧
      r.Spans p ⟨p.x + ofInt32 w, p.y - ofInt32 h⟩ ∧ p ∈ r.corners ∧
      t'.current.position = ⟨r.left, r.top⟩ ∧
      t'.frame = { t.frame with
        primitives := t.frame.primitives ++ [.quad r.corners t.current.color] } ∧
      r.Outline r.corners := by
  intro t p
  have hs := Rect.spans_spanned (plain_run ops) hx hy w h
  exact ⟨t.draw (.rectangle w h), .spanned p w h, rfl, history_push _ _, hs, hs.mem_corners, rfl,
    frame_push_rect t rfl, hs.outline_corners⟩

/-- A box as far to the left as sizes go, and up. -/
theorem rectangle_spans_leftwards :
    let t := fresh.run [.draw (.moveTo 10 10)]
    (t.current.position.x.isNaN = false ∧ t.current.position.y.isNaN = false) ∧
    ∃ t' r, t.apply (.draw (.rectangle Int32.minValue (-20))) = (t', .appended) ∧
      t'.history = t.history ++ [{ t.current with shape := .rect r }] ∧
      r.Spans ⟨10.0, 10.0⟩ ⟨-2147483638.0, 30.0⟩ ∧ ⟨10.0, 10.0⟩ ∈ r.corners ∧
      t'.current.position = ⟨r.left, r.top⟩ ∧
      t'.frame = { t.frame with
        primitives := t.frame.primitives ++ [.quad r.corners t.current.color] } ∧
      r.Outline r.corners := by
  intro t
  have hp : t.current.position = ⟨10.0, 10.0⟩ := by
    have h10 : ofInt32 10 = 10.0 := by decide +kernel
    exact congrArg₂ Point.mk h10 h10
  have hn : (10.0 : Float).isNaN = false := by decide
  have hq : (⟨10.0 + ofInt32 Int32.minValue, 10.0 - ofInt32 (-20)⟩ : Point) =
      ⟨-2147483638.0, 30.0⟩ := by
    have hw : 10.0 + ofInt32 Int32.minValue = -2147483638.0 := by decide +kernel
    have hh : 10.0 - ofInt32 (-20) = 30.0 := by decide +kernel
    rw [hw, hh]
  have hx : t.current.position.x.isNaN = false := by rw [hp, hn]
  have hy : t.current.position.y.isNaN = false := by rw [hp, hn]
  obtain ⟨t', r, ht, hh, hs, hm, hc, hf, ho⟩ :=
    rectangle_spans [.draw (.moveTo 10 10)] Int32.minValue (-20) hx hy
  change r.Spans t.current.position _ at hs
  rw [hp, hq] at hs
  rw [hp] at hm
  exact ⟨⟨hx, hy⟩, t', r, ht, hh, hs, hm, hc, hf, ho⟩

end Turtle

end TurtleGraphics
