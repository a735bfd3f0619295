import Mathlib.Data.List.Basic
import TurtleGraphics.Proofs.Shell.InStep
import TurtleGraphics.Proofs.Shell.Lines

/-!
# What a script does

Lines one after the other do what each of them does, up to the first that asks to quit.
`Turtle.scriptEffect` is that as a value, put together from the effects of the single lines by
`Effect.andThen`, and `throughQuit` are the lines that it comes from.

* `Turtle.scriptEffect_append`: a script may be cut in two anywhere;
* `Shell.execScript_eq_after`: a shell handles a script by carrying its effect out;
* `Shell.map_line_carriedOut`, `Shell.filterMap_frame?_carriedOut`: which lines these are, and what
  they paint.
-/

namespace TurtleGraphics

/-! ## Up to the first request to quit -/

/-- The lines up to and with the first that `Quits`. -/
def throughQuit (lines : List String) : List String :=
  lines.take (lines.findIdx (fun line => decide (Quits line)) + 1)

/-- The lines behind the first that `Quits`. -/
def behindQuit (lines : List String) : List String :=
  lines.drop (lines.findIdx (fun line => decide (Quits line)) + 1)

section

variable {line : String} {lines rest : List String}

theorem goes_on_or_quits (lines : List String) :
    (∀ line ∈ lines, ¬ Quits line) ∨ ∃ line ∈ lines, Quits line := by
  by_cases h : ∃ line ∈ lines, Quits line
  · exact .inr h
  · exact .inl fun line hl hq => h ⟨line, hl, hq⟩

@[simp] theorem throughQuit_nil : throughQuit [] = [] := rfl

theorem throughQuit_cons (h : ¬ Quits line) (rest : List String) :
    throughQuit (line :: rest) = line :: throughQuit rest := by
  rw [throughQuit, List.findIdx_cons, decide_eq_false h, cond_false, List.take_succ_cons,
    throughQuit]

theorem throughQuit_cons_of_quits (h : Quits line) (rest : List String) :
    throughQuit (line :: rest) = [line] := by
  rw [throughQuit, List.findIdx_cons, decide_eq_true h, cond_true, List.take_succ_cons,
    List.take_zero]

theorem behindQuit_cons (h : ¬ Quits line) (rest : List String) :
    behindQuit (line :: rest) = behindQuit rest := by
  rw [behindQuit, List.findIdx_cons, decide_eq_false h, cond_false, List.drop_succ_cons,
    behindQuit]

theorem behindQuit_cons_of_quits (h : Quits line) (rest : List String) :
    behindQuit (line :: rest) = rest := by
  rw [behindQuit, List.findIdx_cons, decide_eq_true h, cond_true, List.drop_succ_cons,
    List.drop_zero]

theorem throughQuit_append (h : ∀ line ∈ lines, ¬ Quits line) (rest : List String) :
    throughQuit (lines ++ rest) = lines ++ throughQuit rest := by
  induction lines with
  | nil => rfl
  | cons line lines ih =>
    obtain ⟨hl, hr⟩ := List.forall_mem_cons.1 h
    rw [List.cons_append, throughQuit_cons hl, ih hr, List.cons_append]

theorem throughQuit_of_goes_on (h : ∀ line ∈ lines, ¬ Quits line) : throughQuit lines = lines := by
  have ha := throughQuit_append h []
  rwa [List.append_nil, throughQuit_nil, List.append_nil] at ha

theorem throughQuit_append_of_quits (h : ∃ line ∈ lines, Quits line) (rest : List String) :
    throughQuit (lines ++ rest) = throughQuit lines := by
  induction lines with
  | nil => simp at h
  | cons line lines ih =>
    by_cases hq : Quits line
    · rw [List.cons_append, throughQuit_cons_of_quits hq, throughQuit_cons_of_quits hq]
    · have hr : ∃ line ∈ lines, Quits line := by simpa [hq] using h
      rw [List.cons_append, throughQuit_cons hq, throughQuit_cons hq, ih hr]

end

/-! ## Effects one after the other -/

namespace Effect

/-- The effect of `e` with `e'` right behind it. -/
def followedBy (e e' : Effect) : Effect :=
  { ending := e'.ending
    turtle := e'.turtle
    messages := e.messages ++ e'.messages
    frames := e.frames ++ e'.frames }

/-- The effect of `e` and, unless it ends the session, of `next` with its turtle. -/
def andThen (e : Effect) (next : Turtle → Effect) : Effect :=
  match e.ending with
  | some _ => e
  | none => e.followedBy (next e.turtle)

variable {e : Effect}

theorem followedBy_assoc (e₁ e₂ e₃ : Effect) :
    (e₁.followedBy e₂).followedBy e₃ = e₁.followedBy (e₂.followedBy e₃) := by
  simp only [followedBy, List.append_assoc]

theorem andThen_of_ends {ending : Ending} (h : e.ending = some ending) (next : Turtle → Effect) :
    e.andThen next = e := by
  rw [andThen, h]

theorem andThen_of_goes_on (h : e.ending = none) (next : Turtle → Effect) :
    e.andThen next = e.followedBy (next e.turtle) := by
  rw [andThen, h]

theorem andThen_assoc (e : Effect) (next last : Turtle → Effect) :
    (e.andThen next).andThen last = e.andThen fun t => (next t).andThen last := by
  cases he : e.ending with
  | some ending => rw [andThen_of_ends he, andThen_of_ends he, andThen_of_ends he]
  | none =>
    rw [andThen_of_goes_on he, andThen_of_goes_on he]
    cases hn : (next e.turtle).ending with
    | some ending =>
      have hf : (e.followedBy (next e.turtle)).ending = some ending := hn
      rw [andThen_of_ends hn, andThen_of_ends hf]
    | none =>
      have hf : (e.followedBy (next e.turtle)).ending = none := hn
      rw [andThen_of_goes_on hn, andThen_of_goes_on hf, followedBy_assoc]
      rfl

end Effect

namespace Turtle

/-- What `Shell.execScript` does in a shell with the turtle `t`: the `effect` of each line, up to
the first that `Quits`. -/
def scriptEffect (t : Turtle) : List String → Effect
  | [] => { turtle := t }
  | line :: lines => (t.effect line).andThen fun t => t.scriptEffect lines

variable {t : Turtle} {line : String} {lines : List String}

theorem effect_of_quits (h : Quits line) (t : Turtle) :
    t.effect line = { ending := some .quit, turtle := t } := by
  rw [effect, h]
  rfl

theorem ending_effect (h : ¬ Quits line) (t : Turtle) : (t.effect line).ending = none := by
  have he := Shell.ending_execLine (s := { turtle := t }) h
  rwa [Shell.execLine_eq] at he

theorem scriptEffect_cons_of_quits (h : Quits line) (lines : List String) :
    t.scriptEffect (line :: lines) = { ending := some .quit, turtle := t } := by
  rw [scriptEffect, effect_of_quits h, Effect.andThen_of_ends rfl]

theorem scriptEffect_cons (h : ¬ Quits line) (lines : List String) :
    t.scriptEffect (line :: lines) =
      (t.effect line).followedBy ((t.effect line).turtle.scriptEffect lines) := by
  rw [scriptEffect, Effect.andThen_of_goes_on (ending_effect h t)]

theorem scriptEffect_append (t : Turtle) (lines rest : List String) :
    t.scriptEffect (lines ++ rest) =
      (t.scriptEffect lines).andThen fun t => t.scriptEffect rest := by
  induction lines generalizing t with
  | nil => rfl
  | cons line lines ih =>
    have hr : (fun t : Turtle => t.scriptEffect (lines ++ rest)) =
        fun t => (t.scriptEffect lines).andThen fun t => t.scriptEffect rest := funext ih
    rw [List.cons_append, scriptEffect, scriptEffect, hr, Effect.andThen_assoc]

theorem ending_scriptEffect (h : ∀ line ∈ lines, ¬ Quits line) (t : Turtle) :
    (t.scriptEffect lines).ending = none := by
  induction lines generalizing t with
  | nil => rfl
  | cons line lines ih =>
    obtain ⟨hl, hr⟩ := List.forall_mem_cons.1 h
    rw [scriptEffect_cons hl]
    exact ih hr _

theorem ending_scriptEffect_of_quits (h : ∃ line ∈ lines, Quits line) (t : Turtle) :
    (t.scriptEffect lines).ending = some .quit := by
  induction lines generalizing t with
  | nil => simp at h
  | cons line lines ih =>
    by_cases hq : Quits line
    · rw [scriptEffect_cons_of_quits hq]
    · have hr : ∃ line ∈ lines, Quits line := by simpa [hq] using h
      rw [scriptEffect_cons hq]
      exact ih hr _

end Turtle

/-! ## Scripts -/

/-- A line that `Quits` displays no frame. -/
theorem Step.frame?_of_quits {line : String} (h : Quits line) (s : Shell) :
    Step.frame? ⟨line, s⟩ = none := by
  refine if_neg fun hc => ?_
  have hm := (isCommand_iff.1 hc).1
  exact Option.some_ne_none _ (h.symm.trans hm)

theorem Console.foldl_send (c : Console) (ms : List Message) :
    ms.foldl send c = { c with output := ms.foldl Link.send c.output } := by
  induction ms generalizing c with
  | nil => rfl
  | cons m ms ih => exact ih (c.send m)

namespace Shell

theorem after_after (s : Shell) (e e' : Effect) :
    (s.after e).after e' = s.after (e.followedBy e') := by
  rw [after, after, after, Effect.followedBy, List.foldl_append, List.foldl_append]

/-- `s` with `input` to read. -/
def withInput (s : Shell) (input : List Arrival) : Shell :=
  { s with console.input := input }

theorem after_withInput (s : Shell) (input : List Arrival) (e : Effect) :
    (s.withInput input).after e = (s.after e).withInput input := by
  rw [after, after, withInput, withInput, Console.foldl_send, Console.foldl_send]

/-- `execScript` carries out the `Turtle.scriptEffect` of `lines`. -/
theorem execScript_eq_after (s : Shell) (lines : List String) :
    s.execScript lines =
      ((s.turtle.scriptEffect lines).ending, s.after (s.turtle.scriptEffect lines)) := by
  -- A request to quit ends both. Any other line hands the shell behind it on to the rest.
  induction lines generalizing s with
  | nil => rfl
  | cons line lines ih =>
    by_cases hq : Quits line
    · rw [execScript, execLine_of_quits hq, Turtle.scriptEffect_cons_of_quits hq]
      rfl
    · rw [execScript_cons hq, ih, execLine_eq, after_after, Turtle.scriptEffect_cons hq]
      rfl

theorem map_line_carriedOut (s : Shell) (lines : List String) :
    (s.carriedOut lines).map Step.line = throughQuit lines := by
  induction lines generalizing s with
  | nil => rfl
  | cons line lines ih =>
    by_cases hq : Quits line
    · rw [carriedOut, execLine_of_quits hq, throughQuit_cons_of_quits hq]
      rfl
    · have he : s.execLine line = (none, (s.execLine line).2) := by rw [← ending_execLine hq]
      rw [carriedOut, he, throughQuit_cons hq, ← ih (s.execLine line).2]
      rfl

/-- The `Step.frame?` of `carriedOut` are the frames of `Turtle.scriptEffect`. -/
theorem filterMap_frame?_carriedOut (s : Shell) (lines : List String) :
    (s.carriedOut lines).filterMap Step.frame? = (s.turtle.scriptEffect lines).frames := by
  rw [List.filterMap_eq_flatMap_toList]
  induction lines generalizing s with
  | nil => rfl
  | cons line lines ih =>
    by_cases hq : Quits line
    · rw [carriedOut, execLine_of_quits hq, Turtle.scriptEffect_cons_of_quits hq]
      dsimp only
      rw [List.flatMap_singleton, Step.frame?_of_quits hq, Option.toList_none]
    · have he : s.execLine line = (none, s.after (s.turtle.effect line)) := by
        rw [execLine_eq, Turtle.ending_effect hq]
      rw [carriedOut, he, Turtle.scriptEffect_cons hq, List.flatMap_cons,
        Turtle.toList_frame? rfl, ih]
      rfl

end Shell

end TurtleGraphics
