import TurtleGraphics.Proofs.Command.Words
import TurtleGraphics.Proofs.Shell.Lines
import TurtleGraphics.Proofs.Text.Lines
import TurtleGraphics.Script

/-!
# A script checked and a script carried out

A check stops at the first line that fails, while a shell reports it and goes on. Both see the same
turtle up to that line, since a failed command changes nothing.

* `Script.checkLines_eq_ok_iff`, `Script.checkLines_eq_error_iff`: a check in terms of what fails in
  a shell;
* `Script.checkLines_mended`: with blank lines in place of those that fail, a check goes through and
  ends with the turtle of the shell;
* `check_agrees`: all of this for a text, up to the first line that asks to quit.
-/

namespace TurtleGraphics

open Text (lines words)

namespace Shell

/-- The command on `line` fails with `e` in the shell `s`. -/
def Fails (s : Shell) (line : String) (e : CommandError) : Prop :=
  Meta.ofLine? line = none ∧ (s.turtle.dispatchLine line).2 = some (.error e)

/-- `s.execLine line` reports an error of the command on `line`, as `text`. -/
def Reports (s : Shell) (line text : String) : Prop :=
  Meta.ofLine? line = none ∧ .printErr text ∈ s.said line

/-- No command of `script` `Fails` in the shell that has executed the lines in front of it. -/
def NoneFails (s : Shell) (script : List String) : Prop :=
  ∀ i line, script[i]? = some line → ∀ e, ¬ (s.upTo script i).Fails line e

/-- The command on line `i` of `script`, counted from zero, is the first that `Fails`. -/
def FirstFails (s : Shell) (script : List String) (i : Nat) (e : CommandError) : Prop :=
  (∃ line, script[i]? = some line ∧ (s.upTo script i).Fails line e) ∧
  ∀ j < i, ∀ line, script[j]? = some line → ∀ e', ¬ (s.upTo script j).Fails line e'

/-- `mended` is `script` with a blank line in place of every line that `Fails`. A line beyond its
end counts as empty, so an empty line at the end may be missing. -/
def Mended (s : Shell) (script mended : List String) : Prop :=
  mended.length ≤ script.length ∧ ∀ i line, script[i]? = some line →
    ((∃ e, (s.upTo script i).Fails line e) → words (mended.getD i "") = []) ∧
    ((∀ e, ¬ (s.upTo script i).Fails line e) → mended.getD i "" = line)

/-- The error of the command on a line, if it `Fails` in this shell. -/
def error? (s : Shell) (line : String) : Option CommandError :=
  match Meta.ofLine? line, (s.turtle.dispatchLine line).2 with
  | none, some (.error e) => some e
  | _, _ => none

/-- `script` with `""` in place of every line that `Fails`. -/
def mend (s : Shell) (script : List String) : List String :=
  script.mapIdx fun i line => if ((s.upTo script i).error? line).isSome then "" else line

section

variable {s : Shell} {line : String} {e e' : CommandError} {rest : List String}

theorem error?_eq_some_iff : s.error? line = some e ↔ s.Fails line e := by
  rw [error?, Fails]
  cases Meta.ofLine? line with
  | some m => simp
  | none =>
    match (s.turtle.dispatchLine line).2 with
    | none | some (.ok _) => simp
    | some (.error e') => simp

theorem isSome_error?_iff : (s.error? line).isSome ↔ ∃ e, s.Fails line e := by
  simp only [Option.isSome_iff_exists, error?_eq_some_iff]

theorem Fails.unique (h : s.Fails line e) (h' : s.Fails line e') : e' = e := by
  have := h.2.symm.trans h'.2
  simpa using this.symm

/-- A line that `Fails` leaves `s.turtle` as it is. -/
theorem turtle_execLine_of_fails (h : s.Fails line e) : (s.execLine line).2.turtle = s.turtle := by
  obtain ⟨hm, he⟩ := h
  rw [turtle_execLine hm]
  rw [Turtle.dispatchLine] at he ⊢
  cases hc : Command.ofLine? line with
  | none => rfl
  | some command =>
    rw [hc] at he
    cases command with
    | error e' => rfl
    | ok c => simp [Turtle.execute] at he

theorem said_of_fails (h : s.Fails line e) : s.said line = [.printErr e.message] := by
  rw [said_of_command h.1, h.2]
  rfl

/-- `Reports` gives the messages of the errors of `Fails`. -/
theorem reports_iff {text : String} :
    s.Reports line text ↔ ∃ e, s.Fails line e ∧ text = e.message := by
  constructor
  · rintro ⟨hm, ht⟩
    rw [said_of_command hm] at ht
    match ha : (s.turtle.dispatchLine line).2 with
    | none => simp [ha] at ht
    | some (.error e) => exact ⟨e, ⟨hm, ha⟩, by simpa [ha, answerMessages] using ht⟩
    | some (.ok outcome) => cases outcome <;> simp [ha, answerMessages] at ht
  · rintro ⟨e, h, rfl⟩
    exact ⟨h.1, by simp [said_of_fails h]⟩

theorem forall_not_reports_iff :
    (∀ text, ¬ s.Reports line text) ↔ ∀ e, ¬ s.Fails line e := by
  simp only [reports_iff, not_exists, not_and]
  exact ⟨fun h e he => h _ e he rfl, fun h _ e he _ => h e he⟩

theorem noneFails_cons (hq : ¬ Quits line) :
    s.NoneFails (line :: rest) ↔
      (∀ e, ¬ s.Fails line e) ∧ (s.execLine line).2.NoneFails rest := by
  constructor
  · intro h
    refine ⟨by simpa using h 0 line rfl, fun i l hl => ?_⟩
    rw [← upTo_succ hq]
    exact h (i + 1) l hl
  · rintro ⟨h0, h⟩ i l hl
    cases i with
    | zero =>
      obtain rfl : line = l := by simpa using hl
      simpa using h0
    | succ i =>
      rw [upTo_succ hq]
      exact h i l hl

theorem firstFails_zero : s.FirstFails (line :: rest) 0 e ↔ s.Fails line e := by
  simp [FirstFails]

theorem firstFails_succ (hq : ¬ Quits line) {i : Nat} :
    s.FirstFails (line :: rest) (i + 1) e ↔
      (∀ e', ¬ s.Fails line e') ∧ (s.execLine line).2.FirstFails rest i e := by
  simp only [FirstFails, List.getElem?_cons_succ, upTo_succ hq]
  constructor
  · rintro ⟨hf, hb⟩
    refine ⟨by simpa using hb 0 (by omega) line rfl, hf, fun j hj l hl => ?_⟩
    rw [← upTo_succ hq]
    exact hb (j + 1) (by omega) l hl
  · rintro ⟨h0, hf, hb⟩
    refine ⟨hf, fun j hj l hl => ?_⟩
    cases j with
    | zero =>
      obtain rfl : line = l := by simpa using hl
      simpa using h0
    | succ j =>
      rw [upTo_succ hq]
      exact hb j (by omega) l hl

/-- `NoneFails` holds of the lines in front of the one that `FirstFails`. -/
theorem FirstFails.noneFails_take {script : List String} {i : Nat} (h : s.FirstFails script i e) :
    s.NoneFails (script.take i) := by
  intro j line hl
  rw [List.getElem?_take] at hl
  split at hl
  · rename_i hj
    rw [upTo_take s script (by omega)]
    exact h.2 j hj line hl
  · cases hl

/-- Whether line `i` `FirstFails` is decided by the lines up to it. -/
theorem FirstFails.take {script : List String} {i : Nat} (h : s.FirstFails script i e) :
    s.FirstFails (script.take (i + 1)) i e := by
  obtain ⟨⟨line, hl, hf⟩, hb⟩ := h
  refine ⟨⟨line, ?_, ?_⟩, fun j hj l hl => ?_⟩
  · rw [List.getElem?_take_of_lt (by omega), hl]
  · rwa [upTo_take s script (by omega)]
  · rw [List.getElem?_take_of_lt (by omega)] at hl
    rw [upTo_take s script (by omega)]
    exact hb j hj l hl

end

end Shell

namespace Script

open Shell

variable {s : Shell} {line : String} {rest script : List String} {n : Nat}

/-! ## One line of a check -/

theorem checkLines_cons_of_fails {e : CommandError} (h : s.Fails line e) :
    checkLines s.turtle n (line :: rest) = .error ⟨n, e⟩ := by
  obtain ⟨hm, he⟩ := h
  have hd : s.turtle.dispatchLine line = ((s.turtle.dispatchLine line).1, some (.error e)) := by
    rw [← he]
  rw [checkLines, hm, hd]
  rfl

/-- After a line that does not fail, `checkLines` has the turtle that `execLine` leaves the
shell. -/
theorem checkLines_cons (h : ∀ e, ¬ s.Fails line e) :
    checkLines s.turtle n (line :: rest) =
      checkLines (s.execLine line).2.turtle (n + 1) rest := by
  rw [checkLines]
  cases hm : Meta.ofLine? line with
  | some m =>
    rw [turtle_execLine_of_meta hm]
    rfl
  | none =>
    rw [turtle_execLine hm, if_neg (by simp)]
    match ha : s.turtle.dispatchLine line with
    | (_, some (.error e)) => exact absurd ⟨hm, by rw [ha]⟩ (h e)
    | (_, some (.ok _)) => rfl
    | (_, none) => rfl

/-- `checkLines` counts a blank line and does nothing else for it. -/
theorem checkLines_cons_of_blank {t : Turtle} (h : words line = []) :
    checkLines t n (line :: rest) = checkLines t (n + 1) rest := by
  rw [checkLines, Turtle.dispatchLine_of_words_eq_nil h t]
  split <;> rfl

/-- An error that `checkLines` finds in `script` is its answer, whatever `more` is. -/
theorem checkLines_append_of_error {t : Turtle} {e : ScriptError}
    (h : checkLines t n script = .error e) (more : List String) :
    checkLines t n (script ++ more) = .error e := by
  induction script generalizing t n with
  | nil => cases h
  | cons line rest ih =>
    rw [List.cons_append, checkLines] at *
    split
    · rename_i hm
      rw [if_pos hm] at h
      exact ih h
    · rename_i hm
      rw [if_neg hm] at h
      split
      · rename_i he
        rw [he] at h
        exact h
      · rename_i t' answer hne he
        rw [he] at h
        match answer, h with
        | none, h => exact ih h
        | some (.ok _), h => exact ih h
        | some (.error e), _ => exact absurd rfl (hne e)

/-! ## A whole check -/

theorem checkLines_eq_ok_iff (hq : ∀ line ∈ script, ¬ Quits line) {t : Turtle} :
    checkLines s.turtle n script = .ok t ↔
      s.NoneFails script ∧ t = (s.execScript script).2.turtle := by
  induction script generalizing s n with
  | nil => simp [checkLines, NoneFails, execScript, eq_comm]
  | cons line rest ih =>
    obtain ⟨hl, hr⟩ := List.forall_mem_cons.1 hq
    rw [noneFails_cons hl, execScript_cons hl]
    by_cases hf : ∃ e, s.Fails line e
    · obtain ⟨e, he⟩ := hf
      rw [checkLines_cons_of_fails he]
      exact iff_of_false (by simp) fun h => h.1.1 e he
    · have hf : ∀ e, ¬ s.Fails line e := not_exists.1 hf
      rw [checkLines_cons hf, ih hr]
      simp only [hf, not_false_eq_true, implies_true, true_and]

/-- The error of `checkLines` is that of the line that `FirstFails` in the shell, with its
number. -/
theorem checkLines_eq_error_iff (hq : ∀ line ∈ script, ¬ Quits line) {k : Nat}
    {e : CommandError} :
    checkLines s.turtle n script = .error ⟨k, e⟩ ↔
      ∃ i, k = n + i ∧ s.FirstFails script i e := by
  induction script generalizing s n with
  | nil => simp [checkLines, FirstFails]
  | cons line rest ih =>
    obtain ⟨hl, hr⟩ := List.forall_mem_cons.1 hq
    by_cases hf : ∃ e, s.Fails line e
    · obtain ⟨e', he'⟩ := hf
      rw [checkLines_cons_of_fails he']
      constructor
      · intro h
        obtain ⟨rfl, rfl⟩ : n = k ∧ e' = e := by simpa using h
        exact ⟨0, rfl, firstFails_zero.2 he'⟩
      · rintro ⟨i, rfl, h⟩
        cases i with
        | zero => rw [(firstFails_zero.1 h).unique he', Nat.add_zero]
        | succ i => exact absurd he' (((firstFails_succ hl).1 h).1 e')
    · have hf : ∀ e, ¬ s.Fails line e := not_exists.1 hf
      rw [checkLines_cons hf, ih hr]
      constructor
      · rintro ⟨i, rfl, h⟩
        exact ⟨i + 1, by omega, (firstFails_succ hl).2 ⟨hf, h⟩⟩
      · rintro ⟨i, rfl, h⟩
        cases i with
        | zero => exact absurd (firstFails_zero.1 h) (hf e)
        | succ i => exact ⟨i, by omega, ((firstFails_succ hl).1 h).2⟩

/-! ## A mended script -/

/-- The first line of a `Mended` script, or `""` if it is missing, is blank if `line` `Fails` and
`line` itself if not, and the others mend `rest`. -/
theorem mended_cons (hq : ¬ Quits line) {mended : List String}
    (h : s.Mended (line :: rest) mended) :
    ((∃ e, s.Fails line e) → words (mended.headD "") = []) ∧
    ((∀ e, ¬ s.Fails line e) → mended.headD "" = line) ∧
    (s.execLine line).2.Mended rest mended.tail := by
  obtain ⟨hlen, h⟩ := h
  have h0 := h 0 line rfl
  have hd : mended.getD 0 "" = mended.headD "" := by cases mended <;> rfl
  rw [upTo_zero, hd] at h0
  refine ⟨h0.1, h0.2, ?_, fun i l hl => ?_⟩
  · rw [List.length_tail]
    simp only [List.length_cons] at hlen
    omega
  · have ht : mended.tail.getD i "" = mended.getD (i + 1) "" := by cases mended <;> rfl
    rw [ht, ← upTo_succ hq]
    exact h (i + 1) l hl

/-- `checkLines` takes a missing line for `""`. -/
theorem checkLines_headD_tail (t : Turtle) (mended : List String) :
    checkLines t n (mended.headD "" :: mended.tail) = checkLines t n mended := by
  cases mended with
  | nil =>
    have hb : words "" = [] := by decide
    exact checkLines_cons_of_blank hb
  | cons line rest => rfl

theorem checkLines_mended (hq : ∀ line ∈ script, ¬ Quits line) {mended : List String}
    (h : s.Mended script mended) :
    checkLines s.turtle n mended = .ok (s.execScript script).2.turtle := by
  induction script generalizing s n mended with
  | nil =>
    obtain rfl : mended = [] := List.eq_nil_of_length_eq_zero (Nat.le_zero.1 h.1)
    rfl
  | cons line rest ih =>
    obtain ⟨hl, hr⟩ := List.forall_mem_cons.1 hq
    obtain ⟨hblank, hsame, htail⟩ := mended_cons hl h
    rw [← checkLines_headD_tail, execScript_cons hl]
    by_cases hf : ∃ e, s.Fails line e
    · obtain ⟨e, he⟩ := hf
      rw [checkLines_cons_of_blank (hblank ⟨e, he⟩), ← turtle_execLine_of_fails he]
      exact ih hr htail
    · have hf : ∀ e, ¬ s.Fails line e := not_exists.1 hf
      rw [hsame hf, checkLines_cons hf]
      exact ih hr htail

theorem getD_mend {i : Nat} (hl : script[i]? = some line) :
    (s.mend script).getD i "" = if ((s.upTo script i).error? line).isSome then "" else line := by
  rw [mend, List.getD_eq_getElem?_getD, List.getElem?_mapIdx, hl]
  rfl

theorem mended_mend (s : Shell) (script : List String) : s.Mended script (s.mend script) := by
  refine ⟨Nat.le_of_eq List.length_mapIdx, fun i line hl => ?_⟩
  have hb : words "" = [] := by decide
  rw [getD_mend hl]
  constructor
  · intro hf
    rw [if_pos (isSome_error?_iff.2 hf), hb]
  · intro hf
    exact if_neg (mt isSome_error?_iff.1 (not_exists.2 hf))

theorem not_newline_of_mem_mend (s : Shell) (text : String) :
    ∀ line ∈ s.mend (lines text), '\n' ∉ line.toList := by
  intro line hline
  obtain ⟨i, hi, rfl⟩ := List.mem_mapIdx.1 hline
  split
  · decide
  · exact Text.not_newline_of_mem_lines (List.getElem_mem hi)

/-- The lines of every `text` are `Mended` by those of a text. -/
theorem exists_mended (s : Shell) (text : String) :
    ∃ other, s.Mended (lines text) (lines other) := by
  obtain ⟨other, ho⟩ := Text.exists_lines_eq (not_newline_of_mem_mend s text)
  exact ⟨other, ho ▸ mended_mend s (lines text)⟩

end Script

/-! ## Agreement -/

/-- `Script.check text` and the shell `s` that executes the lines of `text` tell the same. -/
structure Agrees (s : Shell) (text : String) : Prop where
  /-- `execScript` goes on behind the last line. -/
  goes_on : (s.execScript (lines text)).1 = none
  /-- The check is passed if `s` `Reports` no error, and ends with the turtle of the shell. -/
  ok_iff : ∀ t, Script.check text = .ok t ↔
    (∀ i line, (lines text)[i]? = some line →
      ∀ message, ¬ (s.upTo (lines text) i).Reports line message) ∧
    t = (s.execScript (lines text)).2.turtle
  /-- The check fails with the line that `FirstFails` in the shell, counted from one. -/
  error_iff : ∀ k e, Script.check text = .error ⟨k, e⟩ ↔
    ∃ i, k = i + 1 ∧ s.FirstFails (lines text) i e
  /-- The shell reports `e` in the words of `e.message`, and says nothing else. -/
  reported : ∀ i line e, s.FirstFails (lines text) i e → (lines text)[i]? = some line →
    (s.upTo (lines text) i).said line = [.printErr e.message] ∧
    ((s.upTo (lines text) i).execLine line).2.console =
      (s.upTo (lines text) i).console.printErr e.message
  /-- The lines in front of line `i` pass the check. -/
  front_ok : ∀ i e, s.FirstFails (lines text) i e →
    ∀ front, lines front = (lines text).take i → ∃ t, Script.check front = .ok t
  /-- Whatever follows line `i` does not change the answer. -/
  rest_free : ∀ i e, s.FirstFails (lines text) i e →
    ∀ other, (lines other).take (i + 1) = (lines text).take (i + 1) →
      Script.check other = Script.check text
  /-- On a text that is `Mended`, the check ends with the turtle of the shell. -/
  mended_ok : ∀ other, s.Mended (lines text) (lines other) →
    Script.check other = .ok (s.execScript (lines text)).2.turtle
  exists_front : ∀ i, ∃ front back, text = front ++ back ∧ lines front = (lines text).take i
  exists_mended : ∃ other, s.Mended (lines text) (lines other)

open Script in
theorem agrees_of_not_quits {s : Shell} (hs : s.turtle = .fresh) {text : String}
    (hq : ∀ line ∈ lines text, ¬ Quits line) : Agrees s text where
  goes_on := Shell.ending_execScript hq
  ok_iff t := by
    have hn : s.NoneFails (lines text) ↔ ∀ i line, (lines text)[i]? = some line →
        ∀ message, ¬ (s.upTo (lines text) i).Reports line message := by
      simp only [Shell.forall_not_reports_iff]
      rfl
    rw [check, ← hs, checkLines_eq_ok_iff hq, hn]
  error_iff k e := by
    rw [check, ← hs, checkLines_eq_error_iff hq]
    simp only [Nat.add_comm 1]
  reported i line e h hl := by
    obtain ⟨⟨l, hl', hf⟩, -⟩ := h
    obtain rfl : l = line := by simpa [hl] using hl'.symm
    have hsaid := Shell.said_of_fails hf
    refine ⟨hsaid, ?_⟩
    rw [Shell.console_execLine, hsaid]
    rfl
  front_ok i e h front hfront := by
    have hqf : ∀ line ∈ lines front, ¬ Quits line := fun line hl =>
      hq line (List.mem_of_mem_take (hfront ▸ hl))
    have hnf : s.NoneFails (lines front) := hfront ▸ h.noneFails_take
    exact ⟨_, by rw [check, ← hs]; exact (checkLines_eq_ok_iff hqf).2 ⟨hnf, rfl⟩⟩
  rest_free i e h other hother := by
    have hqt : ∀ line ∈ (lines text).take (i + 1), ¬ Quits line := fun line hl =>
      hq line (List.mem_of_mem_take hl)
    -- the lines up to the failing one already give the error
    have ht := (checkLines_eq_error_iff (n := 1) hqt).2 ⟨i, rfl, h.take⟩
    have hc := checkLines_append_of_error ht ((lines text).drop (i + 1))
    have ho := checkLines_append_of_error (hother ▸ ht) ((lines other).drop (i + 1))
    rw [List.take_append_drop] at hc ho
    rw [check, check, ← hs, hc, ho]
  mended_ok other h := by
    rw [check, ← hs]
    exact checkLines_mended hq h
  exists_front := Text.exists_front text
  exists_mended := exists_mended s text

/-- A check `Agrees` with a fresh shell on every `text` without a line that `Quits`. On one with
such lines `execScript` stops at the first, and the check `Agrees` on the text in front of it. -/
theorem check_agrees (text : String) (window : Window) (console : Console) :
    ((∀ line ∈ lines text, ¬ Quits line) → Agrees { window, console } text) ∧
    ∀ i line, (lines text)[i]? = some line → Quits line →
      (∀ j < i, ∀ l, (lines text)[j]? = some l → ¬ Quits l) →
      Shell.execScript { window, console } (lines text) =
        (some .quit, Shell.upTo { window, console } (lines text) i) ∧
      ∃ front back, text = front ++ back ∧ lines front = (lines text).take i ∧
        Agrees { window, console } front := by
  refine ⟨fun hq => agrees_of_not_quits rfl hq, fun i line hi hq hb => ?_⟩
  obtain ⟨front, back, he, hf⟩ := Text.exists_front text i
  refine ⟨Shell.execScript_of_quits hi hq hb, front, back, he, hf,
    agrees_of_not_quits rfl fun l hl => ?_⟩
  rw [hf] at hl
  obtain ⟨j, hj⟩ := List.mem_iff_getElem?.1 hl
  rw [List.getElem?_take] at hj
  split at hj
  · rename_i hlt
    exact hb j hlt l hj
  · cases hj

end TurtleGraphics
