import Mathlib.Data.List.TakeWhile
import TurtleGraphics.Proofs.Command.Words
import TurtleGraphics.Shell.Meta

/-!
# Kinds of lines

The first character that is no blank tells what a line is: a blank line has none, a line for the
shell begins with a slash, and any other line holds a command to the turtle (`IsCommand`). This is
how the turtle and the shell see it too (`isCommand_iff`).
-/

namespace TurtleGraphics

open Text (cutWords cutWords_cons isBlank words)

/-- The first character of `line` that is not `isBlank`. -/
def firstChar? (line : String) : Option Char :=
  line.toList.find? fun c => !isBlank c

/-- The line holds a command to the turtle: its `firstChar?` exists and is no slash. -/
def IsCommand (line : String) : Prop :=
  ∃ c, firstChar? line = some c ∧ c ≠ '/'

instance : DecidablePred IsCommand := fun line =>
  decidable_of_iff ((firstChar? line).any (· ≠ '/') = true) (by
    unfold IsCommand
    cases firstChar? line <;> simp)

theorem isSome_ofLine?_iff {line : String} :
    (Meta.ofLine? line).isSome = true ↔ firstChar? line = some '/' := by
  rw [Meta.ofLine?, Option.isSome_map, Meta.afterSlash?, firstChar?,
    List.find?_not_eq_head?_dropWhile]
  split
  · rename_i rest h
    simp [h]
  · rename_i h
    cases hd : line.toList.dropWhile isBlank with
    | nil => simp
    | cons c rest =>
      have hc : c ≠ '/' := fun hc => h rest (hc ▸ hd)
      simpa using hc

/-- `cutWords` finds no word only where there is nothing but blanks. -/
theorem cutWords_eq_nil_iff {cs : List Char} :
    cutWords cs = [] ↔ ∀ c ∈ cs, isBlank c = true := by
  induction cs with
  | nil => simp
  | cons c cs ih =>
    rw [List.forall_mem_cons]
    by_cases hc : isBlank c = true
    · rw [cutWords_cons hc, ih]
      exact (and_iff_right hc).symm
    · have hw : cutWords (c :: cs) ≠ [] := by
        obtain ⟨w, ws, h⟩ := List.exists_cons_of_ne_nil (List.splitOnP_ne_nil isBlank cs)
        simp [cutWords, List.splitOnP_cons_eq_if_modifyHead, hc, h]
      exact iff_of_false hw fun h => hc h.1

theorem words_eq_nil_iff {line : String} : words line = [] ↔ firstChar? line = none := by
  rw [words, List.map_eq_nil_iff, cutWords_eq_nil_iff, firstChar?, List.find?_eq_none]
  simp

/-- A command is a line that is no `Meta` command and has `words`. -/
theorem isCommand_iff {line : String} :
    IsCommand line ↔ Meta.ofLine? line = none ∧ words line ≠ [] := by
  rw [← Option.not_isSome_iff_eq_none, isSome_ofLine?_iff, ne_eq, words_eq_nil_iff, IsCommand]
  cases firstChar? line <;> simp

/-- `Turtle.dispatchLine` answers every command. -/
theorem IsCommand.exists_answer {line : String} (h : IsCommand line) (t : Turtle) :
    ∃ t' answer, t.dispatchLine line = (t', some answer) := by
  obtain ⟨name, params, hw⟩ := List.exists_cons_of_ne_nil (isCommand_iff.1 h).2
  exact ⟨_, _, Turtle.dispatchLine_of_words_eq_cons hw t⟩

/-- A line that is neither a `Meta` command nor a command gets no answer, and the turtle stays as it
is. -/
theorem dispatchLine_of_not_isCommand {line : String} (hm : Meta.ofLine? line = none)
    (h : ¬ IsCommand line) (t : Turtle) : t.dispatchLine line = (t, none) := by
  have hw : words line = [] := by
    by_contra hw
    exact h (isCommand_iff.2 ⟨hm, hw⟩)
  exact Turtle.dispatchLine_of_words_eq_nil hw t

example : IsCommand " fw 10" ∧ ¬ IsCommand "\t /pos" ∧ ¬ IsCommand " \t" := by decide +kernel

end TurtleGraphics
