import TurtleGraphics.Proofs.Shell.Scripts

/-!
# Quiet sessions

In a shell without a prompt whose window has no event, nothing happens but what the lines do, and so
a session does what a script of the same lines would do. Only the greeting and the first picture
come in front of that (`Shell.opening`).

* `Shell.IsQuiet.exists_session`: a session and the lines, messages and pictures that it consists
  of;
* `Shell.IsQuiet.run_eq`: how it ends, and with what left unread.
-/

namespace TurtleGraphics

namespace Shell

/-- No event waits in `s.window`, and `s.console` has no prompt. -/
structure IsQuiet (s : Shell) : Prop where
  silent : s.window.takeEvents.1 = []
  promptless : s.console.prompt = none

/-- What `Shell.start` does: the greeting, and the frame of the turtle. -/
def opening (s : Shell) : Effect :=
  { turtle := s.turtle
    messages := (s.console.greeting.map Message.print).toList
    frames := [s.turtle.frame] }

theorem start_eq_after (s : Shell) : s.start = s.after s.opening := by
  rw [start, opening]
  cases s.console.greeting <;> rfl

theorem start_withInput (s : Shell) (input : List Arrival) :
    (s.withInput input).start = (s.after s.opening).withInput input := by
  rw [start_eq_after, after_withInput]
  rfl

/-- If no event waits, `ready` only writes the prompt. -/
theorem ready_of_silent {s : Shell} (h : s.window.takeEvents.1 = []) :
    s.ready = (none, { s with console := s.console.invite }) := by
  rw [ready, takeExit, Window.takeEvents_of_silent h]
  rfl

theorem silent_after {s : Shell} (h : s.window.takeEvents.1 = []) (e : Effect) :
    (s.after e).window.takeEvents.1 = [] := by
  rw [after, Window.takeEvents_foldl_display, h]

/-- With `¬ Quits line`, what `execLine` does is independent of `input`. -/
theorem execLine_withInput {line : String} (hq : ¬ Quits line) (s : Shell) (input : List Arrival) :
    (s.withInput input).execLine line =
      (none, (s.after (s.turtle.effect line)).withInput input) := by
  rw [execLine_eq, after_withInput]
  exact Prod.ext (Turtle.ending_effect hq s.turtle) rfl

namespace IsQuiet

variable {s : Shell} (h : s.IsQuiet)

include h

theorem after (e : Effect) : (s.after e).IsQuiet where
  silent := silent_after h.silent e
  promptless := by rw [Shell.after, Console.foldl_send, h.promptless]

theorem withInput (input : List Arrival) : (s.withInput input).IsQuiet :=
  ⟨h.silent, h.promptless⟩

/-- `ready` leaves a shell that `IsQuiet` as it is. -/
theorem ready_eq : s.ready = (none, s) := by
  rw [ready_of_silent h.silent, Console.invite, h.promptless, Option.elim_none]

/-- A `Session` of a shell that `IsQuiet` does what `Turtle.scriptEffect` tells of its lines. -/
theorem exists_session (lines : List String) :
    ∃ steps, Session (s.withInput (lines.map .line)) steps
        ((s.turtle.scriptEffect lines).ending.getD .inputEnded)
        ((s.after (s.turtle.scriptEffect lines)).withInput ((behindQuit lines).map .line)) ∧
      steps.map Step.line = throughQuit lines ∧
      steps.filterMap Step.frame? = (s.turtle.scriptEffect lines).frames := by
  simp only [List.filterMap_eq_flatMap_toList]
  -- The shell behind a line is quiet again and has the rest of the lines in front of it.
  induction lines generalizing s with
  | nil => exact ⟨[], .ended (h.withInput []).ready_eq rfl, rfl, rfl⟩
  | cons line lines ih =>
    have hready := (h.withInput ((line :: lines).map .line)).ready_eq
    by_cases hq : Quits line
    · have hexec := execLine_of_quits (s := s.withInput (lines.map .line)) hq
      rw [Turtle.scriptEffect_cons_of_quits hq, behindQuit_cons_of_quits hq,
        throughQuit_cons_of_quits hq]
      refine ⟨[⟨line, _⟩], .last hready rfl hexec, rfl, ?_⟩
      rw [List.flatMap_singleton, Step.frame?_of_quits hq, Option.toList_none]
    · have hexec := execLine_withInput hq s (lines.map .line)
      obtain ⟨steps, hs, hl, hf⟩ := ih (h.after (s.turtle.effect line))
      rw [after_after] at hs
      rw [Turtle.scriptEffect_cons hq, behindQuit_cons hq, throughQuit_cons hq]
      refine ⟨⟨line, _⟩ :: steps, .next hready rfl hexec hs, congrArg (line :: ·) hl, ?_⟩
      rw [List.flatMap_cons, Turtle.toList_frame? rfl, hf]
      rfl

/-- `run` does `opening` first, and then what `Turtle.scriptEffect` tells of its lines. -/
theorem run_eq (lines : List String) :
    (s.withInput (lines.map .line)).run =
      ((s.turtle.scriptEffect lines).ending.getD .inputEnded,
        (s.after (s.opening.followedBy (s.turtle.scriptEffect lines))).withInput
          ((behindQuit lines).map .line)) ∧
    ∃ steps, Session (s.withInput (lines.map .line)).start steps
        (s.withInput (lines.map .line)).run.1 (s.withInput (lines.map .line)).run.2 ∧
      steps.map Step.line = throughQuit lines ∧
      steps.filterMap Step.frame? = (s.turtle.scriptEffect lines).frames := by
  obtain ⟨steps, hs, hl, hf⟩ := (h.after s.opening).exists_session lines
  rw [← start_withInput, after_after] at hs
  have hrun : (s.withInput (lines.map .line)).run = _ := hs.loop_eq
  exact ⟨hrun, steps, by rwa [hrun], hl, hf⟩

end IsQuiet

end Shell

end TurtleGraphics
