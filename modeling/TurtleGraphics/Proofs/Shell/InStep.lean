import TurtleGraphics.Proofs.Command.Kinds
import TurtleGraphics.Proofs.Shell.Session
import TurtleGraphics.Proofs.Window.Blocks
import TurtleGraphics.Proofs.Window.Watched

/-!
# The window in step with the turtle

A shell displays `Turtle.frame` when a session starts and behind every command, so a window that
`IsWatched` always shows the turtle as it is.

* `Turtle.frames_effect`: a line displays the turtle behind it if it `IsCommand`, and nothing
  otherwise;
* `Session.takePaints_eq`, `Shell.takePaints_execScript`: what the lines of a session and of a
  script display;
* `Shell.Looks.last_frame`: the frame of the turtle was the last one whenever the window is looked
  at;
* `Shell.shows_run`: all of this for the stream of instructions, which can be read in one way only.
-/

namespace TurtleGraphics

/-- The frame that a `Step` leaves in the window: that of its turtle if its line `IsCommand`. -/
def Step.frame? (step : Step) : Option Frame :=
  if IsCommand step.line then some step.shell.turtle.frame else none

/-! ## One line -/

/-- The `effect` of a line without a command leaves the turtle as it is. -/
theorem Turtle.turtle_effect {line : String} (h : ¬ IsCommand line) (t : Turtle) :
    (t.effect line).turtle = t := by
  rw [effect]
  cases hm : Meta.ofLine? line with
  | some m => cases m <;> rfl
  | none => rw [dispatchLine_of_not_isCommand hm h]

/-- The `effect` of a command displays the turtle behind it, whether it failed or not. -/
theorem Turtle.frames_effect (t : Turtle) (line : String) :
    (t.effect line).frames = if IsCommand line then [(t.effect line).turtle.frame] else [] := by
  rw [effect]
  cases hm : Meta.ofLine? line with
  | some m =>
    have hc : ¬ IsCommand line := fun hc => by simp [(isCommand_iff.1 hc).1] at hm
    rw [if_neg hc]
    cases m <;> rfl
  | none =>
    by_cases hc : IsCommand line
    · obtain ⟨t', answer, hd⟩ := hc.exists_answer t
      rw [if_pos hc, hd]
    · rw [if_neg hc, dispatchLine_of_not_isCommand hm hc]

/-- The `frames` of an `effect` are the `Step.frame?` of its step. -/
theorem Turtle.toList_frame? {t : Turtle} {line : String} {s : Shell}
    (h : s.turtle = (t.effect line).turtle) :
    (Step.frame? ⟨line, s⟩).toList = (t.effect line).frames := by
  rw [frames_effect, Step.frame?, h]
  split <;> rfl

namespace Shell

variable {s : Shell}

theorem window_execLine (s : Shell) (line : String) :
    (s.execLine line).2.window =
      (Step.frame? ⟨line, (s.execLine line).2⟩).toList.foldl Window.display s.window := by
  rw [execLine_eq, Turtle.toList_frame? rfl, after]

theorem isWatched_execLine (h : s.window.IsWatched) (line : String) :
    (s.execLine line).2.window.IsWatched := by
  refine h.of_ends ?_
  rw [window_execLine, Window.ends_foldl_display]

/-- `execLine` sends the instructions of the `Step.frame?` of its step. -/
theorem takePaints_execLine (h : s.window.IsWatched) (line : String) :
    (s.execLine line).2.window.takePaints.1 = s.window.takePaints.1 ++
      (Step.frame? ⟨line, (s.execLine line).2⟩).toList.flatMap Frame.paints := by
  rw [window_execLine, Window.takePaints_foldl_display h]

/-- `ready` and `readLine` keep the turtle, the instructions in the window, and its `ends`. -/
theorem window_of_read {s₁ s₂ : Shell} {e : Option Ending} {l : Option String}
    (ready : s.ready = (e, s₁)) (read : s₁.readLine = (l, s₂)) :
    s₂.turtle = s.turtle ∧ s₂.window.takePaints.1 = s.window.takePaints.1 ∧
      s₂.window.ends = s.window.ends := by
  obtain rfl : s.ready.2 = s₁ := by rw [ready]
  obtain rfl : s.ready.2.readLine.2 = s₂ := by rw [read]
  refine ⟨by rw [turtle_readLine, turtle_ready], ?_, ?_⟩
  · rw [window_readLine, Window.takePaints_foldl_deliver, window_ready,
      Window.takePaints_takeEvents]
  · rw [window_readLine, Window.ends_foldl_deliver, window_ready, Window.ends_takeEvents]

theorem start_eq (s : Shell) :
    s.start.turtle = s.turtle ∧ s.start.window = s.window.display s.turtle.frame := by
  rw [start]
  cases s.console.greeting <;> exact ⟨rfl, rfl⟩

end Shell

/-! ## Many lines -/

theorem flatMap_paints_frame? (step : Step) (steps : List Step) :
    ((step :: steps).filterMap Step.frame?).flatMap Frame.paints =
      step.frame?.toList.flatMap Frame.paints ++
        (steps.filterMap Step.frame?).flatMap Frame.paints := by
  rw [List.filterMap_cons]
  cases step.frame? with
  | none => rfl
  | some f => simp

/-- A `Session` sends the instructions of the `Step.frame?` of its `steps`, in order. -/
theorem Session.takePaints_eq {s s' : Shell} {steps : List Step} {e : Ending}
    (h : Session s steps e s') (hw : s.window.IsWatched) :
    s'.window.takePaints.1 =
      s.window.takePaints.1 ++ (steps.filterMap Step.frame?).flatMap Frame.paints := by
  induction h with
  | @closed s s' e ready =>
    obtain rfl : s.ready.2 = s' := by rw [ready]
    rw [Shell.window_ready, Window.takePaints_takeEvents]
    exact (List.append_nil _).symm
  | ended ready read =>
    obtain ⟨-, hp, -⟩ := Shell.window_of_read ready read
    rw [hp]
    exact (List.append_nil _).symm
  | @last s s₁ s₂ s' line e ready read exec =>
    obtain ⟨-, hp, he⟩ := Shell.window_of_read ready read
    obtain rfl : (s₂.execLine line).2 = s' := by rw [exec]
    rw [Shell.takePaints_execLine (hw.of_ends he), hp, flatMap_paints_frame?]
    exact congrArg _ (List.append_nil _).symm
  | @next s s₁ s₂ s₃ s' line steps e ready read exec rest ih =>
    obtain ⟨-, hp, he⟩ := Shell.window_of_read ready read
    have hw₂ : s₂.window.IsWatched := hw.of_ends he
    obtain rfl : (s₂.execLine line).2 = s₃ := by rw [exec]
    rw [ih (Shell.isWatched_execLine hw₂ line), Shell.takePaints_execLine hw₂, hp,
      flatMap_paints_frame?, List.append_assoc]

namespace Shell

variable {s : Shell}

/-- `execScript` sends the instructions of the `Step.frame?` of `carriedOut`, in order. -/
theorem takePaints_execScript (h : s.window.IsWatched) (script : List String) :
    (s.execScript script).2.window.takePaints.1 = s.window.takePaints.1 ++
      ((s.carriedOut script).filterMap Step.frame?).flatMap Frame.paints := by
  induction script generalizing s with
  | nil => exact (List.append_nil _).symm
  | cons line script ih =>
    have hp := takePaints_execLine h line
    have hw := isWatched_execLine h line
    rw [execScript, carriedOut]
    generalize s.execLine line = answer at hp hw
    obtain ⟨ending, s'⟩ := answer
    cases ending with
    | some e =>
      rw [hp, flatMap_paints_frame?]
      exact congrArg _ (List.append_nil _).symm
    | none =>
      dsimp only at hp hw ⊢
      rw [ih hw, hp, flatMap_paints_frame?, List.append_assoc]

/-- Wherever a session `Looks` at its window, `t.turtle.frame` is the last frame that was sent: a
command ends with it, and any other line changes neither the turtle nor the window. -/
theorem Looks.last_frame (hw : s.window.IsWatched) {steps : List Step} {t : Shell}
    (h : s.start.Looks steps t) :
    t.window.IsWatched ∧
    t.window.takePaints.1 = s.window.takePaints.1 ++
      (s.turtle.frame :: steps.filterMap Step.frame?).flatMap Frame.paints ∧
    (s.turtle.frame :: steps.filterMap Step.frame?).getLast? = some t.turtle.frame := by
  induction h with
  | first =>
    obtain ⟨ht, hv⟩ := s.start_eq
    rw [ht, hv]
    refine ⟨hw.of_ends (Window.ends_display _ _), ?_, rfl⟩
    rw [Window.takePaints_display hw, List.filterMap_nil, List.flatMap_singleton]
  | @next t s₁ s₂ u steps line before ready read exec ih =>
    obtain ⟨ht, hf, hl⟩ := ih
    obtain ⟨hturtle, hp, he⟩ := window_of_read ready read
    have hw₂ : s₂.window.IsWatched := ht.of_ends he
    obtain rfl : (s₂.execLine line).2 = u := by rw [exec]
    refine ⟨isWatched_execLine hw₂ line, ?_, ?_⟩
    · rw [takePaints_execLine hw₂, hp, hf, List.filterMap_append, ← List.cons_append,
        List.flatMap_append, List.append_assoc, flatMap_paints_frame?]
      exact congrArg _ (congrArg _ (List.append_nil _).symm)
    · rw [List.filterMap_append, ← List.cons_append, List.getLast?_append, hl, List.filterMap_cons,
        List.filterMap_nil, Step.frame?]
      by_cases hc : IsCommand line
      · rw [if_pos hc]
        rfl
      · have hs : (s₂.execLine line).2.turtle = t.turtle := by
          rw [execLine_eq, after, ← hturtle]
          exact Turtle.turtle_effect hc s₂.turtle
        rw [if_neg hc, hs]
        rfl

/-- What `s.run` sends to the window `Shows` the frame of `s.turtle` and then, for each command that
is executed, the frame of the turtle behind it, and it can be read as frames in no other way. So
wherever the session `Looks` at its window, the last frame is that of the turtle. `execScript` sends
the same for its commands, without the frame at the start. -/
theorem shows_run (s : Shell) (hw : s.window.IsWatched) :
    (∃ steps sent, Session s.start steps s.run.1 s.run.2 ∧
      s.run.2.window.takePaints.1 = s.window.takePaints.1 ++ sent ∧
      Shows sent (s.turtle.frame :: steps.filterMap Step.frame?)) ∧
    (∀ steps t, s.start.Looks steps t → ∃ sent,
      t.window.takePaints.1 = s.window.takePaints.1 ++ sent ∧
      Shows sent (s.turtle.frame :: steps.filterMap Step.frame?) ∧
      (s.turtle.frame :: steps.filterMap Step.frame?).getLast? = some t.turtle.frame) ∧
    ∀ script, ∃ sent,
      (s.execScript script).2.window.takePaints.1 = s.window.takePaints.1 ++ sent ∧
      Shows sent ((s.carriedOut script).filterMap Step.frame?) := by
  refine ⟨?_, fun steps t ht => ?_, fun script => ?_⟩
  · obtain ⟨steps, h⟩ := s.start.exists_session
    obtain ⟨hstart, -⟩ := Looks.last_frame hw .first
    have hp := h.takePaints_eq hstart
    rw [s.start_eq.2, Window.takePaints_display hw, List.append_assoc] at hp
    exact ⟨steps, _, h, hp, shows_flatMap_paints (s.turtle.frame :: steps.filterMap Step.frame?)⟩
  · obtain ⟨-, hf, hl⟩ := Looks.last_frame hw ht
    exact ⟨_, hf, shows_flatMap_paints _, hl⟩
  · exact ⟨_, takePaints_execScript hw script, shows_flatMap_paints _⟩

/-- The same for a `.wrapped` window that is closed in the turn of a line that fails. -/
theorem shows_run_wrapped :
    let s : Shell :=
      { window := .wrapped (.channel {})
        console := { input := [.line "fw 10", .line " ", .event .exited, .line "fw ten"] } }
    s.window.IsWatched ∧ ∃ steps sent, Session s.start steps s.run.1 s.run.2 ∧
      s.run.2.window.takePaints.1 = s.window.takePaints.1 ++ sent ∧
      Shows sent (s.turtle.frame :: steps.filterMap Step.frame?) := by
  intro s
  have hw : s.window.IsWatched := ⟨_, rfl, rfl, rfl⟩
  exact ⟨hw, (shows_run s hw).1⟩

end Shell

end TurtleGraphics
