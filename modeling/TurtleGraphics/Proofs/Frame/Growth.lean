import Mathlib.Data.List.DropRight
import TurtleGraphics.Proofs.Frame.Cut
import TurtleGraphics.Proofs.Turtle.Undone

/-!
# A picture grows at its end

A state that is added to a history changes the picture at its end only. What it does there depends
on the open run, the unbroken states at the end of the history: they are the strip that the sketch
still holds (`Sketch.strip_foldl`), and a strip of one vertex is not to be seen yet. `Grows` lists
the five cases.

* `grows_render`: the picture of one more state;
* `Grows.keeps`: every primitive stays where it is, and at most the last one gets longer;
* `render_grows`: both for the pictures of a turtle, and the picture behind an undo.
-/

namespace TurtleGraphics

/-- The states behind the last one that `breaks` the strip. -/
def openRun (history : List State) : List State :=
  history.rtakeWhile fun s => !s.breaks

/-- What the primitives `old` become with one more state `s` behind the open `run`. -/
inductive Grows (run : List State) (old : List Primitive) (s : State) : List Primitive → Prop
  | quad (r : Rect) (shape : s.shape = .rect r) : Grows run old s (old ++ [.quad r.corners s.color])
  | lifted (p : Point) (shape : s.shape = .point p) (up : s.penDown = false) : Grows run old s old
  /-- One point alone does not show, behind an empty `run`. -/
  | begun (p : Point) (shape : s.shape = .point p) (down : s.penDown = true) (none : run = []) :
    Grows run old s old
  /-- The second point shows `first` too. -/
  | drawn (p : Point) (first : State) (shape : s.shape = .point p) (down : s.penDown = true)
    (single : run = [first]) :
    Grows run old s (old ++ [.strip [⟨first.position, first.color⟩, ⟨p, s.color⟩]])
  | longer (p : Point) (kept : List Primitive) (shape : s.shape = .point p)
    (down : s.penDown = true) (two : 2 ≤ run.length)
    (last : old = kept ++ [.strip (run.map State.vertex)]) :
    Grows run old s (kept ++ [.strip (run.map State.vertex ++ [⟨p, s.color⟩])])

/-- Every primitive of `old` is in its place in `new`. Only a strip at the end of `old` may have got
one more vertex. -/
def Keeps (old new : List Primitive) : Prop :=
  ∀ i q, old[i]? = some q → new[i]? = some q ∨
    i + 1 = old.length ∧ ∃ vs v, q = .strip vs ∧ new[i]? = some (.strip (vs ++ [v]))

/-! ## The sketch of one more state -/

theorem openRun_concat (history : List State) (s : State) :
    openRun (history ++ [s]) = if s.breaks then [] else openRun history ++ [s] := by
  cases hs : s.breaks with
  | true => exact List.rtakeWhile_concat_neg _ _ _ (by simp [hs])
  | false => exact List.rtakeWhile_concat_pos _ _ _ (by simp [hs])

namespace Sketch

/-- The open `strip` of the sketch of a history has the vertices of its `openRun`. -/
theorem strip_foldl (history : List State) :
    (history.foldl add blank).strip = ((openRun history).map State.vertex).reverse := by
  induction history using List.reverseRecOn with
  | nil => rfl
  | append_singleton history s ih =>
    rw [List.foldl_concat, openRun_concat]
    cases hs : s.breaks with
    | true =>
      rw [add_of_breaks hs]
      rfl
    | false =>
      rw [add_of_breaks_eq_false hs, addVertex, ih, if_neg Bool.false_ne_true, List.map_append,
        List.reverse_append]
      rfl

theorem primitives_of_lt {k : Sketch} (h : k.strip.length < 2) :
    k.primitives = k.finished.reverse := by
  rw [primitives, lift_of_lt h]

theorem primitives_of_le {k : Sketch} (h : 2 ≤ k.strip.length) :
    k.primitives = k.finished.reverse ++ [.strip k.strip.reverse] := by
  rw [primitives, lift_of_le h, List.reverse_cons]

/-- `add` of a state that `breaks` the strip leaves what is drawn, and adds the primitive of the
`gap`. -/
theorem primitives_add_of_breaks {s : State} (h : s.breaks = true) (k : Sketch) :
    (k.add s).primitives = k.primitives ++ (Stretch.gap s).primitive?.toList := by
  rw [add_of_breaks h, primitives, lift_of_nil rfl, primitives, List.reverse_append]
  cases (Stretch.gap s).primitive? <;> rfl

end Sketch

/-- The picture of `history` with one more state `Grows` by one of the five cases. -/
theorem grows_render (history : List State) (s : State) (background : Color) :
    Grows (openRun history) (render history background).primitives s
      (render (history ++ [s]) background).primitives := by
  have hk := Sketch.strip_foldl history
  rw [render, render, List.foldl_concat]
  dsimp only
  generalize history.foldl Sketch.add .blank = k at hk
  have hl : k.strip.length = (openRun history).length := by simp [hk]
  cases hs : s.shape with
  | rect r =>
    have hb : s.breaks = true := by simp [State.breaks, State.isRect, hs]
    rw [Sketch.primitives_add_of_breaks hb, Stretch.primitive?, hs]
    exact .quad r hs
  | point p =>
    cases hd : s.penDown with
    | false =>
      have hb : s.breaks = true := by simp [State.breaks, hd]
      rw [Sketch.primitives_add_of_breaks hb, Stretch.primitive?, hs]
      simpa using Grows.lifted p hs hd
    | true =>
      have hb : s.breaks = false := by simp [State.breaks, State.isRect, hs, hd]
      have hv : s.vertex = ⟨p, s.color⟩ := by rw [State.vertex, State.position, hs]
      have hl' : (k.addVertex ⟨p, s.color⟩).strip.length = (openRun history).length + 1 :=
        congrArg (· + 1) hl
      rw [Sketch.add_of_breaks_eq_false hb, hv]
      rcases Nat.lt_trichotomy (openRun history).length 1 with h0 | h1 | h2
      · rw [Sketch.primitives_of_lt (k := k) (by omega), Sketch.primitives_of_lt (by omega)]
        exact .begun p hs hd (List.length_eq_zero_iff.1 (by omega))
      · obtain ⟨first, hf⟩ := List.length_eq_one_iff.1 h1
        rw [Sketch.primitives_of_lt (k := k) (by omega), Sketch.primitives_of_le (by omega),
          Sketch.addVertex, hk, hf]
        exact .drawn p first hs hd rfl
      · rw [Sketch.primitives_of_le (k := k) (by omega), Sketch.primitives_of_le (by omega),
          Sketch.addVertex, List.reverse_cons, hk, List.reverse_reverse]
        exact .longer p k.finished.reverse hs hd h2 rfl

theorem Grows.keeps {run : List State} {old new : List Primitive} {s : State}
    (h : Grows run old s new) : Keeps old new := by
  intro i q hq
  have within (q' : Primitive) : (old ++ [q'])[i]? = some q := by
    obtain ⟨hi, -⟩ := List.getElem?_eq_some_iff.1 hq
    rw [List.getElem?_append_left hi, hq]
  cases h with
  | quad => exact .inl (within _)
  | drawn => exact .inl (within _)
  | lifted => exact .inl hq
  | begun => exact .inl hq
  | longer p kept shape down two last =>
    subst last
    rcases Nat.lt_or_ge i kept.length with hi | hi
    · rw [List.getElem?_append_left hi] at hq
      exact .inl (by rw [List.getElem?_append_left hi, hq])
    · -- the strip that got longer
      rw [List.getElem?_append_right hi, List.getElem?_singleton] at hq
      obtain ⟨he, rfl⟩ : i - kept.length = 0 ∧ _ := by simpa using hq
      refine .inr ⟨by simp; omega, run.map State.vertex, ⟨p, s.color⟩, rfl, ?_⟩
      rw [List.getElem?_append_right hi, he, List.getElem?_cons_zero]

/-- What a state does to a picture is decided by the `openRun` of the history. So a move `Keeps`
every primitive in the picture of a turtle, and an `Op.undo` with the outcome `undone` brings back
the picture that was there in front of the move whose state it takes. -/
theorem render_grows :
    (∀ history s background,
      Grows (openRun history) (render history background).primitives s
        (render (history ++ [s]) background).primitives) ∧
    ∀ ops,
      (∀ m, Keeps (Turtle.fresh.run ops).frame.primitives
        ((Turtle.fresh.run ops).apply (.draw m)).1.frame.primitives) ∧
      ∀ t, (Turtle.fresh.run ops).apply .undo = (t, .undone) →
        ∃ front m back, ops = front ++ .draw m :: back ∧ Turtle.Stands front m back ∧
          (Turtle.fresh.run front).history.length = t.history.length ∧
          t.frame.primitives = (Turtle.fresh.run front).frame.primitives := by
  refine ⟨grows_render, fun ops => ⟨fun m => ?_, fun t hu => ?_⟩⟩
  · rw [Turtle.apply, Turtle.draw, Turtle.frame, Turtle.frame, Turtle.history_push]
    exact (grows_render _ _ _).keeps
  · have hh := Turtle.history_undo hu
    have hlt : t.history.length < (Turtle.fresh.run ops).history.length := by simp [hh]
    have hpos : 0 < t.history.length := List.length_pos_iff.2 t.history_ne_nil
    obtain ⟨front, m, back, rfl, hl, hs⟩ := Turtle.exists_stands hpos hlt
    refine ⟨front, m, back, rfl, hs, hl, ?_⟩
    rw [Turtle.frame, Turtle.history_of_undone hs hl hu]
    rfl

end TurtleGraphics
