import TurtleGraphics.Turtle

/-!
# The moves that survive a run

Moves, undos and resets come in any order, and of all the moves of a run only some are left in the
drawing. `Remains` keeps those, the oldest first, and the background. `Remains.step` follows the run
without a turtle: it never looks at a state.

* `Remains.apply_turtle`: one operation on the turtle that draws what remains;
* `Turtle.run_fresh`: the turtle of a run draws what remains of the run;
* `Turtle.getElem?_outcomes`: what each operation of a run answers.
-/

namespace TurtleGraphics

/-- What is left of a run: the `moves` that were neither undone nor cleared, and the
`background`. -/
structure Remains where
  moves : List Move
  background : Color

namespace Remains

def blank : Remains := ⟨[], .black⟩

/-- What remains after one more `Op`. -/
def step (r : Remains) : Op → Remains
  | .draw m => { r with moves := r.moves ++ [m] }
  | .background red green blue => { r with background := .rgb red green blue }
  | .reset => blank
  | .undo => if r.moves = [] then blank else { r with moves := r.moves.dropLast }

/-- What remains of the run of `ops` on `Turtle.fresh`. -/
def ofRun (ops : List Op) : Remains :=
  ops.foldl step blank

/-- The `Outcome` of an `Op` where `r` remains. -/
def outcome (r : Remains) : Op → Outcome
  | .draw _ => .appended
  | .background .. => .background
  | .reset => .reset
  | .undo => if r.moves = [] then .undoExhausted else .undone

/-- The turtle that has drawn `r.moves` and nothing else. -/
def turtle (r : Remains) : Turtle :=
  { Turtle.fresh.run (r.moves.map .draw) with background := r.background }

end Remains

namespace Turtle

/-! ## Runs -/

@[simp] theorem run_nil (t : Turtle) : t.run [] = t := rfl

@[simp] theorem run_cons (t : Turtle) (op : Op) (ops : List Op) :
    t.run (op :: ops) = (t.apply op).1.run ops := rfl

theorem run_append (t : Turtle) (ops₁ ops₂ : List Op) :
    t.run (ops₁ ++ ops₂) = (t.run ops₁).run ops₂ :=
  List.foldl_append

/-- The `Outcome` of each operation of a run. -/
def outcomes (t : Turtle) : List Op → List Outcome
  | [] => []
  | op :: ops => (t.apply op).2 :: (t.apply op).1.outcomes ops

/-- The outcome of operation `i` is that of `apply` on the turtle that the operations before it
leave. -/
theorem getElem?_outcomes (t : Turtle) (ops : List Op) (i : Nat) :
    (t.outcomes ops)[i]? = ops[i]?.map fun op => ((t.run (ops.take i)).apply op).2 := by
  induction ops generalizing t i with
  | nil => simp [outcomes]
  | cons op ops ih =>
    cases i with
    | zero => simp [outcomes]
    | succ i => simpa [outcomes] using ih (t.apply op).1 i

theorem length_history_run_draw (t : Turtle) (ms : List Move) :
    (t.run (ms.map .draw)).history.length = t.history.length + ms.length := by
  induction ms generalizing t with
  | nil => simp
  | cons m ms ih =>
    rw [List.map_cons, run_cons, ih, List.length_cons]
    simp only [apply, draw, history_push, List.length_append, List.length_singleton]
    omega

end Turtle

namespace Remains

open Turtle (fresh)

variable (r : Remains)

@[simp] theorem turtle_blank : blank.turtle = fresh := rfl

/-- One more move `m` is drawn on the turtle of `ms`. -/
theorem turtle_append (ms : List Move) (m : Move) (c : Color) :
    turtle ⟨ms ++ [m], c⟩ = (turtle ⟨ms, c⟩).draw m := by
  rw [turtle, List.map_append, Turtle.run_append]
  rfl

/-- `apply` on `r.turtle` follows `step`: neither the states before the current one nor the
background play a part in a move, and an undo finds the move before. -/
theorem apply_turtle (op : Op) : r.turtle.apply op = ((r.step op).turtle, r.outcome op) := by
  cases op with
  | draw m => rw [step, turtle_append, Turtle.apply, outcome]
  | background red green blue => rfl
  | reset => rfl
  | undo =>
    obtain ⟨moves, c⟩ := r
    rcases List.eq_nil_or_concat moves with rfl | ⟨ms, m, rfl⟩
    · rfl
    · have hne : ms ++ [m] ≠ [] := by simp
      rw [List.concat_eq_append, Turtle.apply, turtle_append, Turtle.draw, Turtle.pop?_push, step,
        outcome]
      simp only [if_neg hne, List.dropLast_concat]

theorem run_turtle (ops : List Op) : r.turtle.run ops = (ops.foldl step r).turtle := by
  induction ops generalizing r with
  | nil => rfl
  | cons op ops ih => rw [Turtle.run_cons, apply_turtle, List.foldl_cons, ih]

end Remains

namespace Turtle

/-- The turtle of a run is that of its `Remains`. -/
theorem run_fresh (ops : List Op) : fresh.run ops = (Remains.ofRun ops).turtle := by
  rw [← Remains.turtle_blank, Remains.run_turtle, Remains.ofRun]

/-- A run leaves the history that the moves of `Remains.ofRun` alone would make, with the background
computed alongside, and an `.undo` says whether there was a move left to take back. -/
theorem run_fresh_eq_surviving_moves (ops : List Op) :
    (fresh.run ops).history = (fresh.run ((Remains.ofRun ops).moves.map .draw)).history ∧
    (fresh.run ops).history.length = (Remains.ofRun ops).moves.length + 1 ∧
    (fresh.run ops).background = (Remains.ofRun ops).background ∧
    ∀ i, ops[i]? = some .undo →
      (fresh.outcomes ops)[i]? =
        some (if (Remains.ofRun (ops.take i)).moves = [] then .undoExhausted else .undone) := by
  have hist : (fresh.run ops).history =
      (fresh.run ((Remains.ofRun ops).moves.map .draw)).history := by
    rw [run_fresh ops]
    rfl
  refine ⟨hist, ?_, ?_, fun i hi => ?_⟩
  · rw [hist, length_history_run_draw, history_fresh, List.length_singleton, Nat.add_comm]
  · rw [run_fresh ops]
    rfl
  · rw [getElem?_outcomes, hi, run_fresh, Option.map_some, Remains.apply_turtle]
    rfl

example :
    (Remains.ofRun [.draw .penUp, .draw (.forward 5), .undo, .undo, .undo, .draw .penDown]).moves =
      [.penDown] := by
  decide

end Turtle

end TurtleGraphics
