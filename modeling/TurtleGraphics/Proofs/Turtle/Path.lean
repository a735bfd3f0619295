import TurtleGraphics.Proofs.Turtle.Survivors

/-!
# The history as a path

Entry by entry, the history is the path that the surviving moves lead along. A move changes at most
one `Aspect` of the turtle, `Move.aspect`, and only `rectangle` gives a box. Moves that do not go
anywhere leave a plain point behind, at the top left corner if there was a box.

* `Move.same_next`: a move keeps every aspect except its own;
* `Move.isRect_next`: a box comes from `rectangle` and from nothing else;
* `Move.follows_next`: one entry and the next, as `Move.Follows` says it;
* `Turtle.history_run_draw`: moves alone append the states they lead to, one after the other;
* `Turtle.history_isPath`: the history of a run with undos and resets is a path of this kind.
-/

namespace TurtleGraphics

/-- What can change from one `State` to the next. -/
inductive Aspect where
  | position
  | heading
  | pen
  | color
  deriving DecidableEq

/-- `s` and `s'` agree on an aspect. A `.rect` is at its top left corner. -/
def Aspect.Same (s s' : State) : Aspect → Prop
  | .position => s'.position = s.position
  | .heading => s'.heading = s.heading
  | .pen => s'.penDown = s.penDown
  | .color => s'.color = s.color

namespace Aspect

section

variable (s : State) {a : Aspect}

theorem same_movedTo (p : Point) (h : a ≠ .position) : a.Same s (s.movedTo p) := by
  cases a with
  | position => exact absurd rfl h
  | heading | pen | color => rfl

theorem same_withHeading (degrees : Int64) (h : a ≠ .heading) :
    a.Same s (s.withHeading degrees) := by
  cases a with
  | heading => exact absurd rfl h
  | position | pen | color => rfl

theorem same_withPen (down : Bool) (h : a ≠ .pen) : a.Same s (s.withPen down) := by
  cases a with
  | pen => exact absurd rfl h
  | position | heading | color => rfl

theorem same_withColor (c : Color) (h : a ≠ .color) : a.Same s (s.withColor c) := by
  cases a with
  | color => exact absurd rfl h
  | position | heading | pen => rfl

theorem same_boxed (width height : Int32) (h : a ≠ .position) :
    a.Same s (s.boxed width height) := by
  cases a with
  | position => exact absurd rfl h
  | heading | pen | color => rfl

end

end Aspect

namespace Move

/-- The one aspect that a `Move` can change. -/
def aspect : Move → Aspect
  | .moveTo .. | .forward _ | .back _ | .rectangle .. => .position
  | .face _ | .turnLeft _ | .turnRight _ => .heading
  | .penUp | .penDown => .pen
  | .penColor .. => .color

/-- How `s'` follows from `s` by the move `m`. -/
structure Follows (m : Move) (s s' : State) : Prop where
  reached : s' = m.next s
  /-- All aspects but `m.aspect` are the same as before. -/
  kept : ∀ a : Aspect, a ≠ m.aspect → a.Same s s'
  /-- A box is never carried on: each comes from a `.rectangle` of its own. -/
  isRect_iff : s'.isRect = true ↔ ∃ w h, m = .rectangle w h
  /-- A box has the heading, the pen and the color of `s`. -/
  carried : s'.isRect = true →
    s'.heading = s.heading ∧ s'.penDown = s.penDown ∧ s'.color = s.color
  /-- Any other move leaves the turtle at a plain point where it was. -/
  stayed : m.aspect ≠ .position → s'.shape = .point s.position
  /-- Behind a box, this is its top left corner. -/
  stayed_corner : m.aspect ≠ .position → ∀ r, s.shape = .rect r → s'.shape = .point r.corner

variable (m : Move) (s : State)

/-- A move keeps every aspect but `m.aspect`, whether `s` is a point or a box. -/
theorem same_next {a : Aspect} (h : a ≠ m.aspect) : a.Same s (m.next s) := by
  cases m with
  | moveTo | forward | back => exact Aspect.same_movedTo s _ h
  | face | turnLeft | turnRight => exact Aspect.same_withHeading s _ h
  | penUp | penDown => exact Aspect.same_withPen s _ h
  | penColor => exact Aspect.same_withColor s _ h
  | rectangle => exact Aspect.same_boxed s _ _ h

theorem isRect_next : (m.next s).isRect = true ↔ ∃ w h, m = .rectangle w h := by
  constructor
  · intro h
    cases m with
    | rectangle width height => exact ⟨width, height, rfl⟩
    | _ => exact absurd h Bool.false_ne_true
  · rintro ⟨width, height, rfl⟩
    rfl

theorem shape_next_of_aspect_ne_position (h : m.aspect ≠ .position) :
    (m.next s).shape = .point s.position := by
  cases m with
  | moveTo | forward | back | rectangle => exact absurd rfl h
  | _ => rfl

theorem follows_next : m.Follows s (m.next s) where
  reached := rfl
  kept _ ha := m.same_next s ha
  isRect_iff := m.isRect_next s
  carried h := by
    obtain ⟨width, height, rfl⟩ := (m.isRect_next s).mp h
    have kept : ∀ a : Aspect, a ≠ .position → a.Same s ((rectangle width height).next s) :=
      fun _ ha => (rectangle width height).same_next s ha
    exact ⟨kept .heading (by decide), kept .pen (by decide), kept .color (by decide)⟩
  stayed h := m.shape_next_of_aspect_ne_position s h
  stayed_corner h r hr := by
    have corner : s.position = r.corner := by rw [State.position, hr]
    rw [shape_next_of_aspect_ne_position m s h, corner]

end Move

namespace Turtle

/-- The states that `ms` lead through, from `s` on. -/
def path (s : State) (ms : List Move) : List State :=
  ms.scanl (fun s m => m.next s) s

/-- Of two neighbors on a `path`, the second `Follows` by the move between them. -/
theorem follows_of_path {s : State} {ms : List Move} {i : Nat} {s₁ s₂ : State}
    (h₁ : (path s ms)[i]? = some s₁) (h₂ : (path s ms)[i + 1]? = some s₂) :
    ∃ m, ms[i]? = some m ∧ m.Follows s₁ s₂ := by
  rw [path, List.getElem?_succ_scanl, ← path, h₁, Option.bind_some] at h₂
  obtain ⟨m, hm, rfl⟩ := Option.map_eq_some_iff.mp h₂
  exact ⟨m, hm, m.follows_next s₁⟩

theorem history_run_draw (t : Turtle) (ms : List Move) :
    (t.run (ms.map .draw)).history = t.earlier.reverse ++ path t.current ms := by
  induction ms generalizing t with
  | nil => rfl
  | cons m ms ih =>
    have step : (t.draw m).earlier.reverse = t.earlier.reverse ++ [t.current] :=
      List.reverse_cons
    rw [List.map_cons, run_cons, apply, ih, step, path, path, List.scanl_cons, List.append_assoc]
    rfl

/-- The history of a run is the `path` of the moves that survive it. -/
theorem history_run_fresh (ops : List Op) :
    (fresh.run ops).history = path .initial (Remains.ofRun ops).moves := by
  rw [run_fresh]
  exact history_run_draw fresh (Remains.ofRun ops).moves

/-- Whatever was undone or cleared on the way, the history of a run starts at `.initial`, ends at
`current`, and each entry `Follows` from the one before by the surviving move in that place. -/
theorem history_isPath (ops : List Op) :
    (fresh.run ops).history ≠ [] ∧
    (fresh.run ops).history[(fresh.run ops).history.length - 1]? = some (fresh.run ops).current ∧
    (fresh.run ops).history[0]? = some .initial ∧
    (fresh.run ops).history.length = (Remains.ofRun ops).moves.length + 1 ∧
    ∀ i s s', (fresh.run ops).history[i]? = some s → (fresh.run ops).history[i + 1]? = some s' →
      ∃ m, (Remains.ofRun ops).moves[i]? = some m ∧ m.Follows s s' := by
  refine ⟨history_ne_nil _, ?_, ?_, ?_, fun i s s' h h' => ?_⟩
  · rw [← List.getLast?_eq_getElem?, history, List.getLast?_concat]
  · rw [history_run_fresh, path, List.getElem?_scanl_zero]
  · rw [history_run_fresh, path, List.length_scanl]
  · rw [history_run_fresh] at h h'
    exact follows_of_path h h'

end Turtle

end TurtleGraphics
