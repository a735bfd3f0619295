import Mathlib.Data.Int.ModEq
import Mathlib.Data.List.Forall2
import TurtleGraphics.Proofs.Turtle.Survivors

/-!
# Full turns

A heading counts every full turn, and a full turn shows nowhere. Two runs that differ by full turns
only go the same way: they have the same positions, pens and colors, and paint the same pictures.
Headings are kept in 64 bits and stop at the ends of their range, which would break this. But an
operation adds at most `2 ^ 31` degrees, so fewer than `2 ^ 32` of them stay within the range.

* `State.toInt_turned`, `State.Within.toInt_turned`: a turn of any heading, and one within these
  bounds, which is exact;
* `Move.Alike.next`, `Turtle.Alike.apply`: one operation;
* `Turtle.run_alike`: a run, behind each of its operations.
-/

namespace TurtleGraphics

/-! ## Alike -/

/-- The headings of `s` and `s'` differ by full turns, and nothing else does. -/
structure State.Alike (s s' : State) : Prop where
  shape : s'.shape = s.shape
  heading : s'.heading.toInt ≡ s.heading.toInt [ZMOD 360]
  penDown : s'.penDown = s.penDown
  color : s'.color = s.color

/-- The degrees of a `.turnLeft`, `.turnRight` or `.face` differ by full turns, and nothing else
does. -/
inductive Move.Alike : Move → Move → Prop
  | same (m : Move) : Alike m m
  | face {d d' : Int32} (h : d'.toInt ≡ d.toInt [ZMOD 360]) : Alike (.face d) (.face d')
  | turnLeft {d d' : Int32} (h : d'.toInt ≡ d.toInt [ZMOD 360]) :
    Alike (.turnLeft d) (.turnLeft d')
  | turnRight {d d' : Int32} (h : d'.toInt ≡ d.toInt [ZMOD 360]) :
    Alike (.turnRight d) (.turnRight d')

inductive Op.Alike : Op → Op → Prop
  | draw {m m' : Move} (h : m.Alike m') : Alike (.draw m) (.draw m')
  | background (red green blue : Int32) :
    Alike (.background red green blue) (.background red green blue)
  | reset : Alike .reset .reset
  | undo : Alike .undo .undo

structure Turtle.Alike (t t' : Turtle) : Prop where
  current : t.current.Alike t'.current
  earlier : List.Forall₂ State.Alike t.earlier t'.earlier
  background : t'.background = t.background

/-! ## The range of headings -/

/-- The heading of `s` is one that `n` operations can have led to: at most `n * 2 ^ 31` either
way. -/
def State.Within (n : Nat) (s : State) : Prop :=
  -(2 ^ 31 * (n : Int)) ≤ s.heading.toInt ∧ s.heading.toInt ≤ 2 ^ 31 * (n : Int)

def Turtle.Within (n : Nat) (t : Turtle) : Prop :=
  t.current.Within n ∧ ∀ s ∈ t.earlier, s.Within n

/-- The bounds of `d` degrees, taken to the left or to the right. -/
theorem degrees_bounds (d : Int32) :
    (-2 ^ 31 ≤ d.toInt ∧ d.toInt ≤ 2 ^ 31) ∧ -2 ^ 31 ≤ -d.toInt ∧ -d.toInt ≤ 2 ^ 31 := by
  have hl := d.le_toInt
  have hu := d.toInt_lt
  omega

namespace State

variable {s s' : State} {n : Nat}

theorem Within.mono (h : s.Within n) : s.Within (n + 1) := by
  obtain ⟨hl, hu⟩ := h
  constructor <;> push_cast <;> omega

/-- `turned` adds `d`, and the sum stops at the ends of the range of `Int64`. -/
theorem toInt_turned (s : State) (d : Int) :
    (s.turned d).heading.toInt = max (-2 ^ 63) (min (2 ^ 63 - 1) (s.heading.toInt + d)) := by
  have hmin : Int64.minValue.toInt = -2 ^ 63 := by decide
  have hmax : Int64.maxValue.toInt = 2 ^ 63 - 1 := by decide
  simp only [turned, withHeading, Int64.ofIntClamp]
  split
  · split
    · rw [Int64.toInt_ofIntLE]
      omega
    · rw [hmax]
      omega
  · rw [hmin]
    omega

/-- `turned` is exact for at most `2 ^ 31` degrees, as long as `n + 1 < 2 ^ 32`. -/
theorem Within.toInt_turned (h : s.Within n) (hn : n + 1 < 2 ^ 32) {d : Int}
    (hd : -2 ^ 31 ≤ d ∧ d ≤ 2 ^ 31) : (s.turned d).heading.toInt = s.heading.toInt + d := by
  obtain ⟨hsl, hsu⟩ := h
  have hn : (n : Int) + 1 < 2 ^ 32 := by exact_mod_cast hn
  rw [State.toInt_turned]
  omega

theorem Within.turned (h : s.Within n) (hn : n + 1 < 2 ^ 32) {d : Int}
    (hd : -2 ^ 31 ≤ d ∧ d ≤ 2 ^ 31) : (s.turned d).Within (n + 1) := by
  have ht := h.toInt_turned hn hd
  obtain ⟨hsl, hsu⟩ := h
  rw [Within, ht]
  constructor <;> push_cast <;> omega

/-- An operation leads at most `2 ^ 31` degrees further. -/
theorem Within.next (h : s.Within n) (hn : n + 1 < 2 ^ 32) (m : Move) :
    (m.next s).Within (n + 1) := by
  cases m with
  | face d =>
    obtain ⟨⟨hl, hu⟩, -⟩ := degrees_bounds d
    rw [Within, Move.next, withHeading, Int32.toInt_toInt64]
    constructor <;> push_cast <;> omega
  | turnLeft d => exact h.turned hn (degrees_bounds d).1
  | turnRight d => exact h.turned hn (degrees_bounds d).2
  | _ => exact h.mono

/-! ## One state -/

theorem Alike.refl (s : State) : s.Alike s := ⟨rfl, .rfl, rfl, rfl⟩

/-- `radians` goes by the remainder of the heading. -/
theorem Alike.radians (h : s.Alike s') : s'.radians = s.radians := by
  have hm : s'.heading.toInt % 360 = s.heading.toInt % 360 := h.heading
  rw [State.radians, State.radians, hm]

theorem Alike.position (h : s.Alike s') : s'.position = s.position := by
  rw [State.position, State.position, h.shape]

end State

/-- Moves that are `Alike` lead from states that are `Alike` to such states. -/
theorem Move.Alike.next {m m' : Move} (hm : m.Alike m') {s s' : State} (hs : s.Alike s') {n : Nat}
    (h : s.Within n) (h' : s'.Within n) (hn : n + 1 < 2 ^ 32) :
    (m.next s).Alike (m'.next s') := by
  have hp : Shape.point s'.position = Shape.point s.position := by rw [hs.position]
  have turned {d d' : Int} (hd : d' ≡ d [ZMOD 360]) (hb : -2 ^ 31 ≤ d ∧ d ≤ 2 ^ 31)
      (hb' : -2 ^ 31 ≤ d' ∧ d' ≤ 2 ^ 31) : (s.turned d).Alike (s'.turned d') := by
    refine ⟨hp, ?_, hs.penDown, hs.color⟩
    rw [h.toInt_turned hn hb, h'.toInt_turned hn hb']
    exact hs.heading.add hd
  cases hm with
  | face hd =>
    refine ⟨hp, ?_, hs.penDown, hs.color⟩
    simpa only [Move.next, State.withHeading, Int32.toInt_toInt64] using hd
  | @turnLeft d d' hd => exact turned hd (degrees_bounds d).1 (degrees_bounds d').1
  | @turnRight d d' hd => exact turned hd.neg (degrees_bounds d).2 (degrees_bounds d').2
  | same m =>
    cases m with
    | moveTo x y => exact ⟨rfl, hs.heading, hs.penDown, hs.color⟩
    | face d => exact ⟨hp, .rfl, hs.penDown, hs.color⟩
    | forward d =>
      refine ⟨?_, hs.heading, hs.penDown, hs.color⟩
      simp only [Move.next, State.advanced, State.movedTo, hs.position, hs.radians]
    | back d =>
      refine ⟨?_, hs.heading, hs.penDown, hs.color⟩
      simp only [Move.next, State.advanced, State.movedTo, hs.position, hs.radians]
    | turnLeft d => exact turned .rfl (degrees_bounds d).1 (degrees_bounds d).1
    | turnRight d => exact turned .rfl (degrees_bounds d).2 (degrees_bounds d).2
    | penUp => exact ⟨hp, hs.heading, rfl, hs.color⟩
    | penDown => exact ⟨hp, hs.heading, rfl, hs.color⟩
    | penColor r g b => exact ⟨hp, hs.heading, hs.penDown, rfl⟩
    | rectangle w h =>
      refine ⟨?_, hs.heading, hs.penDown, hs.color⟩
      simp only [Move.next, State.boxed, hs.position]

/-! ## One operation -/

namespace Turtle

variable {t t' : Turtle} {n : Nat}

theorem Within.mono (h : t.Within n) : t.Within (n + 1) :=
  ⟨h.1.mono, fun s hs => (h.2 s hs).mono⟩

theorem within_fresh (n : Nat) : fresh.Within n := by
  have h : (State.initial).heading.toInt = 0 := rfl
  refine ⟨?_, by simp [fresh]⟩
  rw [State.Within, fresh, h]
  omega

theorem Within.apply (h : t.Within n) (hn : n + 1 < 2 ^ 32) (op : Op) :
    (t.apply op).1.Within (n + 1) := by
  cases op with
  | draw m =>
    refine ⟨h.1.next hn m, fun s hs => ?_⟩
    obtain rfl | hs := List.mem_cons.1 hs
    · exact h.1.mono
    · exact (h.2 s hs).mono
  | background r g b => exact h.mono
  | reset => exact within_fresh _
  | undo =>
    obtain ⟨current, earlier, background⟩ := t
    cases earlier with
    | nil => exact within_fresh _
    | cons s earlier =>
      have hs : ∀ u ∈ s :: earlier, u.Within (n + 1) := fun u hu => (h.2 u hu).mono
      exact List.forall_mem_cons.1 hs

theorem Alike.refl (t : Turtle) : t.Alike t :=
  ⟨.refl _, List.forall₂_same.2 fun s _ => .refl s, rfl⟩

/-- Operations that are `Alike` do the same to turtles that are, and have the same outcome. -/
theorem Alike.apply (ht : t.Alike t') (h : t.Within n) (h' : t'.Within n) (hn : n + 1 < 2 ^ 32)
    {op op' : Op} (ho : op.Alike op') :
    (t.apply op).1.Alike (t'.apply op').1 ∧ (t'.apply op').2 = (t.apply op).2 := by
  cases ho with
  | draw hm =>
    have hc := hm.next ht.current h.1 h'.1 hn
    exact ⟨⟨hc, .cons ht.current ht.earlier, ht.background⟩, rfl⟩
  | background r g b => exact ⟨⟨ht.current, ht.earlier, rfl⟩, rfl⟩
  | reset => exact ⟨.refl fresh, rfl⟩
  | undo =>
    obtain ⟨current, earlier, background⟩ := t
    obtain ⟨current', earlier', background'⟩ := t'
    obtain ⟨hc, he, hb⟩ := ht
    cases he with
    | nil => exact ⟨.refl fresh, rfl⟩
    | cons hs he => exact ⟨⟨hs, he, hb⟩, rfl⟩

/-! ## Pictures -/

theorem Alike.history (ht : t.Alike t') : List.Forall₂ State.Alike t.history t'.history :=
  List.rel_append (List.rel_reverse ht.earlier) (.cons ht.current .nil)

end Turtle

theorem Sketch.add_alike {s s' : State} (h : s.Alike s') (k : Sketch) : k.add s' = k.add s := by
  rw [add, add, h.shape, h.penDown, h.color]

/-- `render` does not show full turns of the headings. -/
theorem render_alike {history history' : List State}
    (h : List.Forall₂ State.Alike history history') (background : Color) :
    render history' background = render history background := by
  have hf (k : Sketch) : history'.foldl Sketch.add k = history.foldl Sketch.add k := by
    induction h generalizing k with
    | nil => rfl
    | cons hs h ih => rw [List.foldl_cons, List.foldl_cons, Sketch.add_alike hs, ih]
  rw [render, render, hf]

/-! ## Runs -/

namespace Turtle

variable {t t' : Turtle} {n : Nat}

theorem Alike.run (ht : t.Alike t') (h : t.Within n) (h' : t'.Within n) {ops ops' : List Op}
    (ho : List.Forall₂ Op.Alike ops ops') (hn : n + ops.length < 2 ^ 32) :
    (t.run ops).Alike (t'.run ops') ∧ t'.outcomes ops' = t.outcomes ops := by
  induction ho generalizing t t' n with
  | nil => exact ⟨ht, rfl⟩
  | @cons op op' ops ops' ho hos ih =>
    rw [List.length_cons] at hn
    have hn₁ : n + 1 < 2 ^ 32 := by omega
    obtain ⟨ha, he⟩ := ht.apply h h' hn₁ ho
    obtain ⟨hr, hos⟩ := ih ha (h.apply hn₁ op) (h'.apply hn₁ op') (by omega)
    exact ⟨hr, by rw [outcomes, outcomes, he, hos]⟩

/-- Two runs of fewer than `2 ^ 32` operations that are `Alike`: they have the same `outcomes`, and
behind each operation the histories are `Alike`, and the background and the frame are the same. -/
theorem run_alike {ops ops' : List Op} (h : List.Forall₂ Op.Alike ops ops')
    (hn : ops.length < 2 ^ 32) :
    fresh.outcomes ops' = fresh.outcomes ops ∧ ∀ i,
      List.Forall₂ State.Alike (fresh.run (ops.take i)).history (fresh.run (ops'.take i)).history ∧
      (fresh.run (ops'.take i)).background = (fresh.run (ops.take i)).background ∧
      (fresh.run (ops'.take i)).frame = (fresh.run (ops.take i)).frame := by
  have hw := within_fresh 0
  refine ⟨((Alike.refl fresh).run hw hw h (by omega)).2, fun i => ?_⟩
  have hi : 0 + (ops.take i).length < 2 ^ 32 := by
    rw [List.length_take]
    omega
  obtain ⟨ha, -⟩ := (Alike.refl fresh).run hw hw (List.forall₂_take i h) hi
  refine ⟨ha.history, ha.background, ?_⟩
  rw [frame, frame, ha.background, render_alike ha.history]

/-- The turn of `-2147483648` degrees to the right is one of `-128` degrees. -/
theorem run_alike_of_turns :
    let ops : List Op := [.draw (.turnLeft 450), .draw (.forward 10),
      .draw (.turnRight (-2147483648)), .undo, .draw (.face (-90)), .draw (.back 5)]
    let ops' : List Op := [.draw (.turnLeft 90), .draw (.forward 10),
      .draw (.turnRight (-128)), .undo, .draw (.face 630), .draw (.back 5)]
    List.Forall₂ Op.Alike ops ops' ∧ ops.length < 2 ^ 32 ∧
    (fresh.run ops').frame = (fresh.run ops).frame := by
  intro ops ops'
  have h : List.Forall₂ Op.Alike ops ops' :=
    .cons (.draw (.turnLeft (by decide))) (.cons (.draw (.same _))
      (.cons (.draw (.turnRight (by decide))) (.cons .undo
        (.cons (.draw (.face (by decide))) (.cons (.draw (.same _)) .nil)))))
  exact ⟨h, by decide, ((run_alike h (by decide)).2 6).2.2⟩

end Turtle

end TurtleGraphics
