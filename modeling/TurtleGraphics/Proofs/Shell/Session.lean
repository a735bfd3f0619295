import TurtleGraphics.Proofs.Shell.Effect

/-!
# Sessions line by line

`Shell.loop` gives the end of a session only. A `Session` tells the whole of it: the lines that it
carries out one after the other, each with the shell right behind it. `Shell.Looks` says in which
shells a session looks at its window, and `Shell.carriedOut` gives the lines of a script that are
carried out.

* `Shell.exists_session`: the loop is a session;
* `Session.unique`: there is no other one from the same shell, so it ends as the loop does
  (`Session.loop_eq`).
-/

namespace TurtleGraphics

/-- A `line` that was executed, and the `shell` right behind it. -/
structure Step where
  line : String
  shell : Shell

/-- `Session s steps e s'` if the rounds from `s` on execute the `steps`, and the session ends with
`e` in `s'`. -/
inductive Session : Shell → List Step → Ending → Shell → Prop
  /-- `ready` ends it. -/
  | closed {s s' : Shell} {e : Ending} (ready : s.ready = (some e, s')) : Session s [] e s'
  /-- `readLine` finds no line. -/
  | ended {s s₁ s' : Shell} (ready : s.ready = (none, s₁)) (read : s₁.readLine = (none, s')) :
    Session s [] .inputEnded s'
  /-- `execLine` ends it. -/
  | last {s s₁ s₂ s' : Shell} {line : String} {e : Ending} (ready : s.ready = (none, s₁))
    (read : s₁.readLine = (some line, s₂)) (exec : s₂.execLine line = (some e, s')) :
    Session s [⟨line, s'⟩] e s'
  /-- It goes on behind `line`. -/
  | next {s s₁ s₂ s₃ s' : Shell} {line : String} {steps : List Step} {e : Ending}
    (ready : s.ready = (none, s₁)) (read : s₁.readLine = (some line, s₂))
    (exec : s₂.execLine line = (none, s₃)) (rest : Session s₃ steps e s') :
    Session s (⟨line, s₃⟩ :: steps) e s'

namespace Shell

/-- `s.Looks steps t` if a session from `s` on comes to look at its window in `t`, behind
`steps`. -/
inductive Looks (s : Shell) : List Step → Shell → Prop
  | first : Looks s [] s
  | next {t s₁ s₂ u : Shell} {steps : List Step} {line : String} (before : Looks s steps t)
    (ready : t.ready = (none, s₁)) (read : s₁.readLine = (some line, s₂))
    (exec : s₂.execLine line = (none, u)) : Looks s (steps ++ [⟨line, u⟩]) u

/-- The steps of `execScript`. -/
def carriedOut (s : Shell) : List String → List Step
  | [] => []
  | line :: lines =>
    match s.execLine line with
    | (some _, s') => [⟨line, s'⟩]
    | (none, s') => ⟨line, s'⟩ :: s'.carriedOut lines

/-- `execScript` leaves the shell of the last step of `carriedOut`. -/
theorem execScript_eq (s : Shell) (script : List String) :
    (s.execScript script).2 = ((s.carriedOut script).getLast?.map Step.shell).getD s := by
  induction script generalizing s with
  | nil => rfl
  | cons line script ih =>
    rw [execScript, carriedOut]
    match s.execLine line with
    | (some _, s') => rfl
    | (none, s') =>
      dsimp only
      rw [ih, List.getLast?_cons]
      cases (s'.carriedOut script).getLast? <;> rfl

/-! ## One round -/

@[simp] theorem turtle_ready (s : Shell) : s.ready.2.turtle = s.turtle := by
  unfold ready
  dsimp only
  split <;> rfl

/-- `ready` takes the events of the window. -/
@[simp] theorem window_ready (s : Shell) : s.ready.2.window = s.window.takeEvents.2 := by
  unfold ready
  dsimp only
  split <;> rfl

@[simp] theorem turtle_readLine (s : Shell) : s.readLine.2.turtle = s.turtle := rfl

/-- `readLine` delivers the events of the wait to the window. -/
@[simp] theorem window_readLine (s : Shell) :
    s.readLine.2.window =
      (Wait.ofArrivals s.console.input).events.foldl Window.deliver s.window := rfl

/-- A `round` after which the session goes on has executed a line. -/
theorem round_eq_none {s s' : Shell} (h : s.round = (none, s')) :
    ∃ s₁ line s₂, s.ready = (none, s₁) ∧ s₁.readLine = (some line, s₂) ∧
      s₂.execLine line = (none, s') := by
  unfold round at h
  split at h
  · cases h
  · rename_i s₁ hready
    unfold serve at h
    split at h
    · cases h
    · rename_i line s₂ hread
      exact ⟨s₁, line, s₂, hready, hread, h⟩

/-- A `round` that ends the session is a `Session`. -/
theorem round_eq_some {s s' : Shell} {e : Ending} (h : s.round = (some e, s')) :
    ∃ steps, Session s steps e s' := by
  unfold round at h
  split at h
  · rename_i e₁ s₁ hready
    cases h
    exact ⟨[], .closed hready⟩
  · rename_i s₁ hready
    unfold serve at h
    split at h
    · rename_i s₂ hread
      cases h
      exact ⟨[], .ended hready hread⟩
    · rename_i line s₂ hread
      exact ⟨[⟨line, s'⟩], .last hready hread h⟩

/-! ## Whole sessions -/

/-- Every `loop` is a `Session`. -/
theorem exists_session (s : Shell) : ∃ steps, Session s steps s.loop.1 s.loop.2 := by
  induction s using loop.induct with
  | case1 s e s' h =>
    have hl : s.loop = (e, s') := by
      rw [loop]
      split <;> simp_all
    rw [hl]
    exact round_eq_some h
  | case2 s s' h ih =>
    have hl : s.loop = s'.loop := by
      rw [loop]
      split <;> simp_all
    obtain ⟨s₁, line, s₂, hready, hread, hexec⟩ := round_eq_none h
    obtain ⟨steps, hs⟩ := ih
    rw [hl]
    exact ⟨_, .next hready hread hexec hs⟩

end Shell

/-- A `Session` from `t` on continues one that `Looks` at its window in `t`. -/
theorem Session.behind {s t s' : Shell} {steps steps' : List Step} {e : Ending}
    (h : Session t steps' e s') (ht : s.Looks steps t) : Session s (steps ++ steps') e s' := by
  induction ht generalizing steps' with
  | first => exact h
  | next before ready read exec ih =>
    rw [List.append_assoc, List.singleton_append]
    exact ih (.next ready read exec h)

/-- The `Session` of a shell is unique. -/
theorem Session.unique {s s' s'' : Shell} {steps steps' : List Step} {e e' : Ending}
    (h : Session s steps e s') (h' : Session s steps' e' s'') :
    steps' = steps ∧ e' = e ∧ s'' = s' := by
  induction h generalizing steps' with
  | closed ready => cases h' <;> simp_all
  | ended ready read => cases h' <;> simp_all
  | last ready read exec => cases h' <;> simp_all
  | next ready read exec rest ih =>
    cases h' with
    | closed => simp_all
    | ended => simp_all
    | last => simp_all
    | next ready' read' exec' rest' =>
      obtain ⟨-, rfl⟩ := Prod.mk.inj (ready.symm.trans ready')
      obtain ⟨hl, rfl⟩ := Prod.mk.inj (read.symm.trans read')
      obtain rfl := Option.some.inj hl
      obtain ⟨-, rfl⟩ := Prod.mk.inj (exec.symm.trans exec')
      obtain ⟨rfl, rfl, rfl⟩ := ih rest'
      exact ⟨rfl, rfl, rfl⟩

/-- The `loop` of a shell ends as its `Session`. -/
theorem Session.loop_eq {s s' : Shell} {steps : List Step} {e : Ending}
    (h : Session s steps e s') : s.loop = (e, s') := by
  obtain ⟨steps', h'⟩ := s.exists_session
  obtain ⟨-, he, hs⟩ := h.unique h'
  exact Prod.ext he hs

end TurtleGraphics
