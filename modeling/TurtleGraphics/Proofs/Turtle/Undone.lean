import Mathlib.Data.List.Induction
import TurtleGraphics.Proofs.Turtle.Survivors

/-!
# What an undo takes back

The newest state of a history was put there by one move of the run, with everything behind that move
taken back again. `Turtle.Stands` says that the state of a move has been there ever since.

* `Turtle.take_history_of_stands`: while it is, the history below it does not change either;
* `Turtle.exists_stands`: every state but the first stands, by some move of the run;
* `Turtle.history_of_undone`: an undo gives the history back that was there in front of the move
  whose state was the newest.
-/

namespace TurtleGraphics.Turtle

/-- The state that `m` adds behind `front` has been there ever since: behind no part of `back` is
the history as short as it was in front of `m`. -/
def Stands (front : List Op) (m : Move) (back : List Op) : Prop :=
  ∀ b, b <+: back →
    (fresh.run front).history.length < (fresh.run (front ++ .draw m :: b)).history.length

theorem run_concat (t : Turtle) (ops : List Op) (op : Op) :
    t.run (ops ++ [op]) = ((t.run ops).apply op).1 := by
  rw [run_append, run_cons, run_nil]

theorem run_behind (t : Turtle) (front : List Op) (m : Move) (back : List Op) (op : Op) :
    t.run (front ++ .draw m :: (back ++ [op])) =
      ((t.run (front ++ .draw m :: back)).apply op).1 := by
  rw [← List.cons_append, ← List.append_assoc, run_concat]

/-- Only a `.draw` makes a history longer, by one. -/
theorem length_history_apply (t : Turtle) (op : Op) :
    (t.apply op).1.history.length ≤ t.history.length ∨
      ∃ m, op = .draw m ∧ (t.apply op).1.history.length = t.history.length + 1 := by
  cases op with
  | draw m =>
    have hl : (t.push (m.next t.current)).history.length = t.history.length + 1 := by simp
    exact .inr ⟨m, rfl, hl⟩
  | background => exact .inl (Nat.le_refl _)
  | reset => simp [apply]
  | undo =>
    obtain ⟨current, earlier, background⟩ := t
    cases earlier <;> simp [apply, pop?]

theorem history_undo {t t' : Turtle} (h : t.apply .undo = (t', .undone)) :
    t.history = t'.history ++ [t.current] := by
  obtain ⟨current, earlier, background⟩ := t
  cases earlier with
  | nil => cases h
  | cons s earlier =>
    cases h
    simp [history]

/-- `apply` leaves the first `n` entries alone if the history stays longer than that. -/
theorem take_history_apply {t : Turtle} {op : Op} {n : Nat} (ht : n < t.history.length)
    (h : n < (t.apply op).1.history.length) :
    (t.apply op).1.history.take n = t.history.take n := by
  cases op with
  | draw m =>
    rw [apply, draw, history_push, List.take_append_of_le_length (Nat.le_of_lt ht)]
  | background => rfl
  | reset =>
    obtain rfl : n = 0 := Nat.lt_one_iff.1 h
    rw [List.take_zero, List.take_zero]
  | undo =>
    obtain ⟨current, earlier, background⟩ := t
    cases earlier with
    | nil =>
      obtain rfl : n = 0 := Nat.lt_one_iff.1 h
      rw [List.take_zero, List.take_zero]
    | cons s earlier =>
      rw [history_undo (t := ⟨current, s :: earlier, background⟩) rfl]
      exact (List.take_append_of_le_length (Nat.le_of_lt h)).symm

/-- While the state of `m` `Stands`, the history below it stays as it was. -/
theorem take_history_of_stands {front back : List Op} {m : Move} (h : Stands front m back) :
    (fresh.run (front ++ .draw m :: back)).history.take (fresh.run front).history.length =
      (fresh.run front).history := by
  induction back using List.reverseRecOn with
  | nil =>
    rw [run_concat, apply, draw, history_push, List.take_left]
  | append_singleton back op ih =>
    have hb : Stands front m back := fun b hp => h b (hp.trans (List.prefix_append _ _))
    have hop := h (back ++ [op]) (List.prefix_refl _)
    rw [run_behind] at hop ⊢
    rw [take_history_apply (hb back (List.prefix_refl _)) hop, ih hb]

/-- Every state of a history but the first `Stands`, by some move of `ops`. -/
theorem exists_stands {ops : List Op} {k : Nat} (hk : 0 < k)
    (h : k < (fresh.run ops).history.length) :
    ∃ front m back, ops = front ++ .draw m :: back ∧ (fresh.run front).history.length = k ∧
      Stands front m back := by
  induction ops using List.reverseRecOn with
  | nil => exact absurd h (Nat.not_lt.2 hk)
  | append_singleton ops op ih =>
    by_cases ho : k < (fresh.run ops).history.length
    · -- the state was there before this operation, which has not taken it back
      obtain ⟨front, m, back, rfl, hf, hs⟩ := ih ho
      refine ⟨front, m, back ++ [op], by simp, hf, fun b hb => ?_⟩
      obtain rfl | hb := List.prefix_concat_iff.1 hb
      · rw [hf, ← List.cons_append, ← List.append_assoc]
        exact h
      · exact hs b hb
    · rw [run_concat] at h
      obtain hl | ⟨m, rfl, hl⟩ := length_history_apply (fresh.run ops) op
      · exact absurd (Nat.lt_of_lt_of_le h hl) ho
      · have hf : (fresh.run ops).history.length = k := by omega
        refine ⟨ops, m, [], rfl, hf, fun b hb => ?_⟩
        obtain rfl := List.prefix_nil.1 hb
        rw [run_concat]
        omega

/-- An `.undo` that takes the state of `m` back gives the history in front of `m`. -/
theorem history_of_undone {front back : List Op} {m : Move} {t : Turtle}
    (hs : Stands front m back) (hl : (fresh.run front).history.length = t.history.length)
    (hu : (fresh.run (front ++ .draw m :: back)).apply .undo = (t, .undone)) :
    t.history = (fresh.run front).history := by
  rw [← take_history_of_stands hs, history_undo hu, List.take_left' hl.symm]

end TurtleGraphics.Turtle
