import TurtleGraphics.Proofs.Shell.Effect

/-!
# Lines one after the other

`Shell.upTo` is the shell in front of one line of a script. Every line of a script is carried out as
long as none asks to quit (`Shell.execScript_cons`), and the first that does ends it there
(`Shell.execScript_of_quits`).
-/

namespace TurtleGraphics

/-- `line` is the `Meta` command `.quit`. -/
def Quits (line : String) : Prop :=
  Meta.ofLine? line = some .quit

instance : DecidablePred Quits := fun line =>
  inferInstanceAs (Decidable (Meta.ofLine? line = some .quit))

namespace Shell

/-- The shell in front of line `i` of `script`, counted from zero. -/
def upTo (s : Shell) (script : List String) (i : Nat) : Shell :=
  (s.execScript (script.take i)).2

section

variable {s : Shell} {line : String}

theorem execLine_of_quits (h : Quits line) : s.execLine line = (some .quit, s) := by
  rw [execLine_eq, Turtle.effect, h]
  rfl

/-- `execLine` ends a session only for a line that `Quits`. -/
theorem ending_execLine (h : ¬ Quits line) : (s.execLine line).1 = none := by
  rw [execLine_eq, Turtle.effect]
  cases hm : Meta.ofLine? line with
  | some m =>
    cases m with
    | quit => exact absurd hm h
    | _ => rfl
  | none =>
    obtain ⟨t, answer⟩ := s.turtle.dispatchLine line
    cases answer <;> rfl

theorem execScript_cons (h : ¬ Quits line) (rest : List String) :
    s.execScript (line :: rest) = (s.execLine line).2.execScript rest := by
  have he : s.execLine line = (none, (s.execLine line).2) := by rw [← ending_execLine h]
  rw [execScript, he]

@[simp] theorem upTo_zero (script : List String) : s.upTo script 0 = s := by
  rw [upTo, List.take_zero, execScript]

theorem upTo_succ (h : ¬ Quits line) (rest : List String) (i : Nat) :
    s.upTo (line :: rest) (i + 1) = (s.execLine line).2.upTo rest i := by
  rw [upTo, List.take_succ_cons, execScript_cons h, upTo]

/-- `upTo` goes by the lines in front of `i` only. -/
theorem upTo_take (s : Shell) (script : List String) {i n : Nat} (h : i ≤ n) :
    s.upTo (script.take n) i = s.upTo script i := by
  rw [upTo, List.take_take, Nat.min_eq_left h, upTo]

/-- `execScript` goes on behind lines of which none `Quits`. -/
theorem ending_execScript {script : List String} (h : ∀ line ∈ script, ¬ Quits line) :
    (s.execScript script).1 = none := by
  induction script generalizing s with
  | nil => rfl
  | cons line rest ih =>
    obtain ⟨hl, hr⟩ := List.forall_mem_cons.1 h
    rw [execScript_cons hl, ih hr]

/-- The first line that `Quits` ends `execScript`, and no line behind it is executed. -/
theorem execScript_of_quits {script : List String} {i : Nat} (hi : script[i]? = some line)
    (hq : Quits line) (h : ∀ j < i, ∀ l, script[j]? = some l → ¬ Quits l) :
    s.execScript script = (some .quit, s.upTo script i) := by
  induction script generalizing s i with
  | nil => simp at hi
  | cons first rest ih =>
    cases i with
    | zero =>
      obtain rfl : first = line := by simpa using hi
      rw [execScript, execLine_of_quits hq, upTo_zero]
    | succ i =>
      have hf : ¬ Quits first := h 0 (by omega) first rfl
      rw [execScript_cons hf, upTo_succ hf]
      exact ih hi fun j hj l hl => h (j + 1) (by omega) l hl

end

end Shell

end TurtleGraphics
