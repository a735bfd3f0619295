import TurtleGraphics.Proofs.Shell.Quiet

/-!
# Preloaded scripts

It makes no difference whether lines are in the script of a session or typed in front of the others,
except for the picture at the start: behind a script it is painted late, or not at all if the script
asks to quit.

* `Shell.runWithScript_of_goes_on`, `Shell.runWithScript_of_quits`: what a script and the lines
  behind it do;
* `Shell.runWithScript_interchangeable`: the two sessions side by side, as `Interchangeable` puts
  it.
-/

namespace TurtleGraphics

/-- `ScriptedSession s script front behind e s'` if `runWithScript` executes the steps `front` of
`script` and then, if it goes on, the steps `behind` of its input, and ends with `e` in the shell
`s'`. -/
inductive ScriptedSession (s : Shell) (script : List String) :
    List Step → List Step → Ending → Shell → Prop
  /-- A line of `script` ends it. -/
  | stopped {e : Ending} {s' : Shell} (exec : s.execScript script = (some e, s')) :
    ScriptedSession s script (s.carriedOut script) [] e s'
  /-- It goes on behind `script`. -/
  | behind {s₁ s' : Shell} {steps : List Step} {e : Ending}
    (exec : s.execScript script = (none, s₁)) (rest : Session s₁.start steps e s') :
    ScriptedSession s script (s.carriedOut script) steps e s'

/-- What the window has sent since it was `w` `Shows` the frames `frames`. -/
def Window.Showed (w w' : Window) (frames : List Frame) : Prop :=
  ∃ sent, w'.takePaints.1 = w.takePaints.1 ++ sent ∧ Shows sent frames

theorem Window.showed_foldl_display {w : Window} (h : w.IsWatched) {fs frames : List Frame}
    (hf : fs = frames) : w.Showed (fs.foldl display w) frames := by
  rw [← hf]
  exact ⟨_, takePaints_foldl_display h fs, shows_flatMap_paints fs⟩

/-- The frame of `Turtle.fresh` is empty. -/
theorem Turtle.frame_fresh : fresh.frame = ⟨.black, []⟩ := rfl

namespace Turtle

/-- What `Shell.runWithScript` does with the lines `script` and the input `typed`, without a
greeting. -/
def sessionEffect (t : Turtle) (script typed : List String) : Effect :=
  (t.scriptEffect script).andThen fun t =>
    ({ turtle := t, frames := [t.frame] } : Effect).followedBy (t.scriptEffect typed)

variable {script typed : List String}

theorem sessionEffect_of_goes_on (h : ∀ line ∈ script, ¬ Quits line) (t : Turtle) :
    t.sessionEffect script typed =
      let e := t.scriptEffect script
      e.followedBy (({ turtle := e.turtle, frames := [e.turtle.frame] } : Effect).followedBy
        (e.turtle.scriptEffect typed)) := by
  rw [sessionEffect, Effect.andThen_of_goes_on (ending_scriptEffect h t)]

theorem sessionEffect_of_quits (h : ∃ line ∈ script, Quits line) (t : Turtle) :
    t.sessionEffect script typed = t.scriptEffect script := by
  rw [sessionEffect, Effect.andThen_of_ends (ending_scriptEffect_of_quits h t)]

theorem scriptEffect_append_of_goes_on (h : ∀ line ∈ script, ¬ Quits line) (t : Turtle) :
    t.scriptEffect (script ++ typed) =
      (t.scriptEffect script).followedBy ((t.scriptEffect script).turtle.scriptEffect typed) := by
  rw [scriptEffect_append, Effect.andThen_of_goes_on (ending_scriptEffect h t)]

theorem scriptEffect_append_of_quits (h : ∃ line ∈ script, Quits line) (t : Turtle) :
    t.scriptEffect (script ++ typed) = t.scriptEffect script := by
  rw [scriptEffect_append, Effect.andThen_of_ends (ending_scriptEffect_of_quits h t)]

/-- Without a script the frame of `t` comes first. -/
theorem frames_sessionEffect_nil (t : Turtle) (typed : List String) :
    (t.sessionEffect [] typed).frames = t.frame :: (t.scriptEffect typed).frames := rfl

/-- The ending and the messages of `sessionEffect` are those of `script ++ typed`. -/
theorem sessionEffect_agrees (t : Turtle) (script typed : List String) :
    (t.sessionEffect script typed).ending = (t.scriptEffect (script ++ typed)).ending ∧
    (t.sessionEffect script typed).messages = (t.scriptEffect (script ++ typed)).messages := by
  rcases goes_on_or_quits script with hs | hq
  · rw [sessionEffect_of_goes_on hs, scriptEffect_append_of_goes_on hs]
    exact ⟨rfl, rfl⟩
  · rw [sessionEffect_of_quits hq, scriptEffect_append_of_quits hq]
    exact ⟨rfl, rfl⟩

end Turtle

namespace Shell

variable {s : Shell} {script : List String}

/-- Behind a script without a line that `Quits`, `runWithScript` is `run`. -/
theorem runWithScript_of_goes_on (hs : ∀ line ∈ script, ¬ Quits line) :
    s.runWithScript script = (s.after (s.turtle.scriptEffect script)).run := by
  rw [runWithScript, execScript_eq_after, Turtle.ending_scriptEffect hs]

/-- With a line that `Quits`, `runWithScript` is no more than the script. -/
theorem runWithScript_of_quits (hs : ∃ line ∈ script, Quits line) :
    s.runWithScript script = (.quit, s.after (s.turtle.scriptEffect script)) := by
  rw [runWithScript, execScript_eq_after, Turtle.ending_scriptEffect_of_quits hs]

/-- Without a greeting, `opening` displays `e.turtle` and says nothing. -/
theorem opening_after (hg : s.console.greeting = none) (e : Effect) :
    (s.after e).opening = { turtle := e.turtle, frames := [e.turtle.frame] } := by
  rw [opening, after, Console.foldl_send, hg]
  rfl

/-- In a shell that `IsQuiet` and has no greeting, `runWithScript` does what `sessionEffect`
tells. -/
theorem IsQuiet.exists_scripted (h : s.IsQuiet) (hg : s.console.greeting = none)
    (script typed : List String) :
    ∃ behind unread,
      (s.withInput (typed.map .line)).runWithScript script =
        ((s.turtle.sessionEffect script typed).ending.getD .inputEnded,
          (s.after (s.turtle.sessionEffect script typed)).withInput unread) ∧
      ScriptedSession (s.withInput (typed.map .line)) script
        ((s.withInput (typed.map .line)).carriedOut script) behind
        ((s.withInput (typed.map .line)).runWithScript script).1
        ((s.withInput (typed.map .line)).runWithScript script).2 ∧
      ((s.withInput (typed.map .line)).carriedOut script ++ behind).map Step.line =
        throughQuit (script ++ typed) ∧
      ((∀ line ∈ script, ¬ Quits line) → behind.filterMap Step.frame? =
        ((s.turtle.scriptEffect script).turtle.scriptEffect typed).frames) ∧
      ((∃ line ∈ script, Quits line) → unread = typed.map .line) := by
  have hlines := map_line_carriedOut (s.withInput (typed.map .line)) script
  have hexec := execScript_eq_after (s.withInput (typed.map .line)) script
  rw [after_withInput] at hexec
  rcases goes_on_or_quits script with hs | hq
  · obtain ⟨hrun, behind, hb, hl, hf⟩ := (h.after (s.turtle.scriptEffect script)).run_eq typed
    have hr := runWithScript_of_goes_on (s := s.withInput (typed.map .line)) hs
    rw [after_withInput] at hr
    rw [Turtle.ending_scriptEffect hs] at hexec
    refine ⟨behind, (behindQuit typed).map .line, ?_, ?_, ?_, fun _ => hf, ?_⟩
    · rw [Turtle.sessionEffect_of_goes_on hs, ← after_after, ← opening_after hg]
      exact hr.trans hrun
    · rw [hr]
      exact .behind hexec hb
    · rw [List.map_append, hlines, hl, throughQuit_append hs, throughQuit_of_goes_on hs]
    · rintro ⟨line, hm, hq⟩
      exact absurd hq (hs line hm)
  · have hr := runWithScript_of_quits (s := s.withInput (typed.map .line)) hq
    rw [after_withInput] at hr
    rw [Turtle.ending_scriptEffect_of_quits hq] at hexec
    refine ⟨[], typed.map .line, ?_, ?_, ?_, ?_, fun _ => rfl⟩
    · rw [hr, Turtle.sessionEffect_of_quits hq, Turtle.ending_scriptEffect_of_quits hq]
      rfl
    · rw [hr]
      exact .stopped hexec
    · rw [List.append_nil, hlines, throughQuit_append_of_quits hq]
    · obtain ⟨line, hm, hq⟩ := hq
      exact fun hs => absurd hq (hs line hm)

/-! ## The same lines in a script and typed -/

/-- `s` executes `script` in front of the lines `typed`, and `s'` reads `script ++ typed`. The
sessions execute the steps `front` and `behind`, and `steps`. -/
structure Interchangeable (s s' : Shell) (script typed : List String)
    (front behind steps : List Step) : Prop where
  scripted : ScriptedSession s script front behind (s.runWithScript script).1
    (s.runWithScript script).2
  unscripted : ScriptedSession s' [] [] steps (s'.runWithScript []).1 (s'.runWithScript []).2
  ending : (s.runWithScript script).1 = (s'.runWithScript []).1
  messages : (s.runWithScript script).2.console.output.pending =
    (s'.runWithScript []).2.console.output.pending
  /-- No line behind the first that `Quits` is executed. -/
  lines : (front ++ behind).map Step.line = throughQuit (script ++ typed)
  lines' : steps.map Step.line = throughQuit (script ++ typed)
  /-- A `script` without a line that `Quits` moves the first frame behind its own. -/
  pictures : (∀ line ∈ script, ¬ Quits line) →
    s.window.Showed (s.runWithScript script).2.window
      (front.filterMap Step.frame? ++ (s.execScript script).2.turtle.frame ::
        behind.filterMap Step.frame?) ∧
    s'.window.Showed (s'.runWithScript []).2.window
      (⟨.black, []⟩ :: (front.filterMap Step.frame? ++ behind.filterMap Step.frame?))
  /-- A `script` with a line that `Quits` leaves it out. No greeting is written and no input
  read. -/
  stopped : (∃ line ∈ script, Quits line) →
    s.window.Showed (s.runWithScript script).2.window (front.filterMap Step.frame?) ∧
    s'.window.Showed (s'.runWithScript []).2.window
      (⟨.black, []⟩ :: front.filterMap Step.frame?) ∧
    (s.runWithScript script).2.console.input = typed.map .line ∧
    ∀ greeting, ({ s with console.greeting := greeting }.runWithScript script).2.console.output =
      (s.runWithScript script).2.console.output

/-- `script` and `typed` are `Interchangeable` in a fresh shell whose window `IsWatched`. -/
theorem runWithScript_interchangeable {w : Window} (hw : w.IsWatched)
    (he : w.takeEvents.1 = []) (script typed : List String) :
    ∃ front behind steps,
      Interchangeable { window := w, console := .ofLines typed }
        { window := w, console := .ofLines (script ++ typed) } script typed front behind steps := by
  let s : Shell := { window := w, console := .ofLines typed }
  let s' : Shell := { window := w, console := .ofLines (script ++ typed) }
  have h : IsQuiet { window := w } := ⟨he, rfl⟩
  -- The second session is one with an empty script.
  obtain ⟨behind, unread, hr, hs, hl, hb, hu⟩ := h.exists_scripted rfl script typed
  obtain ⟨steps, unread', hr', hs', hl', -, -⟩ := h.exists_scripted rfl [] (script ++ typed)
  have hr : s.runWithScript script = _ := hr
  have hr' : s'.runWithScript [] = _ := hr'
  obtain ⟨he₁, hm₁⟩ := Turtle.sessionEffect_agrees .fresh script typed
  obtain ⟨he₂, hm₂⟩ := Turtle.sessionEffect_agrees .fresh [] (script ++ typed)
  refine ⟨s.carriedOut script, behind, steps, hs, hs', ?_, ?_, hl, hl', fun hgo => ?_,
    fun hq => ?_⟩
  · rw [hr, hr', he₁, he₂]
    rfl
  · rw [hr, hr']
    simp only [withInput, after, Console.output_foldl_send]
    rw [hm₁, hm₂]
    rfl
  · rw [hr, hr', execScript_eq_after]
    refine ⟨Window.showed_foldl_display hw ?_, Window.showed_foldl_display hw ?_⟩
    · rw [filterMap_frame?_carriedOut, hb hgo, Turtle.sessionEffect_of_goes_on hgo]
      rfl
    · rw [filterMap_frame?_carriedOut, hb hgo, Turtle.frames_sessionEffect_nil,
        Turtle.scriptEffect_append_of_goes_on hgo, Turtle.frame_fresh]
      rfl
  · rw [hr, hr', Turtle.sessionEffect_of_quits hq]
    refine ⟨Window.showed_foldl_display hw ?_, Window.showed_foldl_display hw ?_, hu hq,
      fun greeting => ?_⟩
    · rw [filterMap_frame?_carriedOut]
    · rw [filterMap_frame?_carriedOut, Turtle.frames_sessionEffect_nil,
        Turtle.scriptEffect_append_of_quits hq, Turtle.frame_fresh]
    · rw [runWithScript_of_quits hq, withInput, after, after, Console.output_foldl_send,
        Console.output_foldl_send]
      rfl

/-- The same for a `script` with a line that fails, and `/quit` among the lines `typed`. -/
theorem runWithScript_interchangeable_wrapped :
    let w : Window := .wrapped (.channel {})
    w.IsWatched ∧ w.takeEvents.1 = [] ∧ ∃ front behind steps,
      Interchangeable { window := w, console := .ofLines ["/quit", "pu"] }
        { window := w, console := .ofLines ["fw 10", "fw ten", "/quit", "pu"] }
        ["fw 10", "fw ten"] ["/quit", "pu"] front behind steps := by
  intro w
  have hw : w.IsWatched := ⟨_, rfl, rfl, rfl⟩
  exact ⟨hw, rfl, runWithScript_interchangeable hw rfl ["fw 10", "fw ten"] ["/quit", "pu"]⟩

end Shell

end TurtleGraphics
