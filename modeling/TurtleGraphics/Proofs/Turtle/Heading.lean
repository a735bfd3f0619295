import Mathlib.Algebra.BigOperators.Group.List.Basic
import Mathlib.Data.List.DropRight
import TurtleGraphics.Proofs.Turtle.FullTurns
import TurtleGraphics.Proofs.Turtle.Undone

/-!
# Headings as sums

A turn is added to the heading without rounding, and the heading is not brought back into one
circle. So it can be computed from the moves alone: `Move.bearing` is the direction faced last and
the turns since, as a sum of integers. A turn that leaves the range of 64 bits stops at its end, but
fewer than `2 ^ 32` operations do not get there.

* `State.Within.toInt_turned_left`: a turn behind the last operation of a run, with room to spare;
* `State.Within.toInt_heading_next`: one move within the bounds of a run;
* `Move.bearing_concat`, `Turtle.toInt_heading_run_draw`: moves one after the other;
* `Turtle.heading_run_exact`: the heading of a run with undos and resets.
-/

namespace TurtleGraphics

namespace Move

/-- The direction that a `.face` faces, whatever the heading was before. -/
def faced? : Move → Option Int32
  | .face degrees => some degrees
  | _ => none

/-- The degrees of a `.turnLeft`, and zero for any other move. -/
def left : Move → Int
  | .turnLeft degrees => degrees.toInt
  | _ => 0

/-- The degrees of a `.turnRight`, and zero for any other move. -/
def right : Move → Int
  | .turnRight degrees => degrees.toInt
  | _ => 0

/-- The direction of the last `.face` in `ms`, or zero if there is none. -/
def lastFaced (ms : List Move) : Int :=
  (ms.filterMap faced?).getLast?.elim 0 Int32.toInt

/-- The moves of `ms` since the last `.face`, or all of them if there is none. -/
def sinceFaced (ms : List Move) : List Move :=
  ms.rtakeWhile fun m => m.faced?.isNone

/-- `lastFaced`, and the turns to the left since then less those to the right. -/
def bearing (ms : List Move) : Int :=
  lastFaced ms + ((sinceFaced ms).map left).sum - ((sinceFaced ms).map right).sum

example : bearing [.turnLeft 7, .face 90, .turnRight 400, .forward 5, .turnLeft (-2147483648)] =
    -2147483958 := by
  decide

/-- One more move `m` faces another direction, or it turns. -/
theorem bearing_concat (ms : List Move) (m : Move) :
    bearing (ms ++ [m]) = m.faced?.elim (bearing ms + m.left - m.right) Int32.toInt := by
  cases hm : m.faced? with
  | none =>
    have hl : lastFaced (ms ++ [m]) = lastFaced ms := by simp [lastFaced, hm]
    have hs : sinceFaced (ms ++ [m]) = sinceFaced ms ++ [m] :=
      List.rtakeWhile_concat_pos _ _ _ (by simp [hm])
    simp only [bearing, hl, hs, List.map_append, List.map_singleton, List.sum_append,
      List.sum_singleton, Option.elim_none]
    omega
  | some d =>
    have hl : lastFaced (ms ++ [m]) = d.toInt := by simp [lastFaced, hm]
    have hs : sinceFaced (ms ++ [m]) = [] := List.rtakeWhile_concat_neg _ _ _ (by simp [hm])
    simp [bearing, hl, hs]

end Move

/-! ## One turn -/

namespace State

variable {s : State} {n : Nat}

/-- With `n < 2 ^ 32` there is room for one more turn to the left: the longest one is a degree
shorter than the longest to the right. -/
theorem Within.toInt_turned_left (h : s.Within n) (hn : n < 2 ^ 32) (d : Int32) :
    (s.turned d.toInt).heading.toInt = s.heading.toInt + d.toInt := by
  obtain ⟨hl, hu⟩ := h
  have hn : (n : Int) < 2 ^ 32 := by exact_mod_cast hn
  have hdl := d.le_toInt
  have hdu := d.toInt_lt
  rw [State.toInt_turned]
  omega

/-- In a state `Within` the bounds, `m` faces another direction or turns by its exact degrees. -/
theorem Within.toInt_heading_next (h : s.Within n) (hn : n + 1 < 2 ^ 32) (m : Move) :
    (m.next s).heading.toInt = m.faced?.elim (s.heading.toInt + m.left - m.right) Int32.toInt := by
  cases m with
  | face d => exact Int32.toInt_toInt64 d
  | turnLeft d =>
    have ht := h.toInt_turned hn (degrees_bounds d).1
    simpa [Move.next, Move.faced?, Move.left, Move.right] using ht
  | turnRight d =>
    have ht := h.toInt_turned hn (degrees_bounds d).2
    simpa [Move.next, Move.faced?, Move.left, Move.right, Int.sub_eq_add_neg] using ht
  | _ => show s.heading.toInt = s.heading.toInt + 0 - 0; omega

end State

/-! ## Runs -/

/-- No more moves remain than there were `ops`. -/
theorem Remains.length_moves_foldl_step (r : Remains) (ops : List Op) :
    (ops.foldl step r).moves.length ≤ r.moves.length + ops.length := by
  induction ops generalizing r with
  | nil => exact Nat.le_refl _
  | cons op ops ih =>
    have hop : (r.step op).moves.length ≤ r.moves.length + 1 := by
      cases op with
      | draw m => simp [step]
      | background => exact Nat.le_succ _
      | reset => exact Nat.zero_le _
      | undo =>
        rw [step]
        split
        · exact Nat.zero_le _
        · simp only [List.length_dropLast]
          omega
    have hops := ih (r.step op)
    rw [List.foldl_cons, List.length_cons]
    omega

namespace Turtle

theorem Within.run {t : Turtle} {n : Nat} (h : t.Within n) {ops : List Op}
    (hn : n + ops.length < 2 ^ 32) : (t.run ops).Within (n + ops.length) := by
  induction ops generalizing t n with
  | nil => exact h
  | cons op ops ih =>
    rw [List.length_cons] at hn ⊢
    have hr := ih (h.apply (by omega) op) (by omega)
    rw [run_cons, show n + (ops.length + 1) = n + 1 + ops.length by omega]
    exact hr

theorem within_run_fresh {ops : List Op} (h : ops.length < 2 ^ 32) :
    (fresh.run ops).Within ops.length := by
  have hr : (fresh.run ops).Within (0 + ops.length) := (within_fresh 0).run (by omega)
  rwa [Nat.zero_add] at hr

/-- The run of `ms` leads to the heading `Move.bearing ms`. -/
theorem toInt_heading_run_draw {ms : List Move} (h : ms.length < 2 ^ 32) :
    (fresh.run (ms.map .draw)).current.heading.toInt = Move.bearing ms := by
  induction ms using List.reverseRecOn with
  | nil => rfl
  | append_singleton ms m ih =>
    rw [List.length_append, List.length_singleton] at h
    have hl : (ms.map Op.draw).length = ms.length := List.length_map _
    have hw : (fresh.run (ms.map .draw)).Within (ms.map Op.draw).length :=
      within_run_fresh (by omega)
    have hn := hw.1.toInt_heading_next (by omega) m
    rw [List.map_append, List.map_singleton, run_concat, Move.bearing_concat, ← ih (by omega)]
    exact hn

/-- The heading behind operation `i`, which draws `m`. -/
theorem toInt_heading_take_succ {ops : List Op} (h : ops.length < 2 ^ 32) {i : Nat} {m : Move}
    (hi : ops[i]? = some (.draw m)) :
    (fresh.run (ops.take (i + 1))).current.heading.toInt =
      m.faced?.elim ((fresh.run (ops.take i)).current.heading.toInt + m.left - m.right)
        Int32.toInt := by
  have hl : i < ops.length := (List.getElem?_eq_some_iff.1 hi).1
  have ht : (ops.take i).length = i := List.length_take_of_le (Nat.le_of_lt hl)
  have hw : (fresh.run (ops.take i)).Within (ops.take i).length := within_run_fresh (by omega)
  rw [List.take_add_one, hi, Option.toList_some, run_concat]
  exact hw.1.toInt_heading_next (by omega) m

/-- A run of fewer than `2 ^ 32` operations leads to the `Move.bearing` of the moves that survive
it, as an exact sum. Each turn on the way is exact, and a `.turnLeft` is taken back by a
`.turnRight`. From any heading, `turned` stops at the ends of the range of `Int64` and does not come
out at the other end. -/
theorem heading_run_exact {ops : List Op} (h : ops.length < 2 ^ 32) :
    (fresh.run ops).current.heading.toInt = Move.bearing (Remains.ofRun ops).moves ∧
    (∀ i d, ops[i]? = some (.draw (.turnLeft d)) →
      (fresh.run (ops.take (i + 1))).current.heading.toInt =
        (fresh.run (ops.take i)).current.heading.toInt + d.toInt) ∧
    (∀ i d, ops[i]? = some (.draw (.turnRight d)) →
      (fresh.run (ops.take (i + 1))).current.heading.toInt =
        (fresh.run (ops.take i)).current.heading.toInt - d.toInt) ∧
    (∀ d, (fresh.run (ops ++ [.draw (.turnLeft d), .draw (.turnRight d)])).current.heading =
      (fresh.run ops).current.heading) ∧
    ∀ (t : Turtle) (d : Int32),
      (t.draw (.turnLeft d)).current.heading.toInt =
        max (-2 ^ 63) (min (2 ^ 63 - 1) (t.current.heading.toInt + d.toInt)) ∧
      (t.draw (.turnRight d)).current.heading.toInt =
        max (-2 ^ 63) (min (2 ^ 63 - 1) (t.current.heading.toInt - d.toInt)) := by
  have hw := within_run_fresh h
  refine ⟨?_, fun i d hi => ?_, fun i d hi => ?_, fun d => ?_, fun t d => ⟨?_, ?_⟩⟩
  · have hm := Remains.length_moves_foldl_step .blank ops
    have hs : (Remains.ofRun ops).moves.length < 2 ^ 32 := by
      simp only [Remains.ofRun, Remains.blank, List.length_nil] at hm ⊢
      omega
    rw [run_fresh]
    exact toInt_heading_run_draw hs
  · have ht := toInt_heading_take_succ h hi
    simpa [Move.faced?, Move.left, Move.right] using ht
  · have ht := toInt_heading_take_succ h hi
    simpa [Move.faced?, Move.left, Move.right] using ht
  · -- The sum behind the turn to the left is exact, so the difference behind it is the old one.
    have hl := hw.1.toInt_turned_left h d
    have hr := State.toInt_turned ((fresh.run ops).current.turned d.toInt) (-d.toInt)
    have hlo := (fresh.run ops).current.heading.le_toInt
    have hhi := (fresh.run ops).current.heading.toInt_lt
    rw [run_append]
    apply Int64.toInt_inj.1
    refine Eq.trans hr ?_
    omega
  · exact State.toInt_turned t.current d.toInt
  · exact State.toInt_turned t.current (-d.toInt)

/-- The same with the longest `.turnRight`, a turn that does not survive, and the longest
`.turnLeft`, which is taken back. -/
theorem heading_run_exact_of_longest_turns :
    let ops : List Op := [.draw (.turnLeft 450), .draw (.face (-90)), .draw (.forward 10),
      .draw (.turnRight (-2147483648)), .draw (.turnLeft 30), .undo, .draw (.turnLeft 7)]
    let turns : List Op := [.draw (.turnLeft (-2147483648)), .draw (.turnRight (-2147483648))]
    ops.length < 2 ^ 32 ∧ (fresh.run ops).current.heading.toInt = 2147483565 ∧
    (fresh.run (ops ++ turns)).current.heading = (fresh.run ops).current.heading := by
  intro ops turns
  have h : ops.length < 2 ^ 32 := by decide
  have hb : Move.bearing (Remains.ofRun ops).moves = 2147483565 := by decide
  obtain ⟨hs, -, -, ht, -⟩ := heading_run_exact h
  exact ⟨h, hs.trans hb, ht (-2147483648)⟩

end Turtle

end TurtleGraphics
