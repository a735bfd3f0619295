import TurtleGraphics.Proofs.Command.Kinds
import TurtleGraphics.Proofs.Command.Words
import TurtleGraphics.Proofs.Shell.Effect
import TurtleGraphics.Proofs.Text.Lines
import TurtleGraphics.Proofs.Text.Quoted

/-!
# Reports on one line

The report of a failed command repeats what the user entered, once as the words of the command and
once as a quoted parameter. Neither brings a blank other than the space into it, whatever was
entered, so a report is always a single line of text.

* `ParamError.spacesOnly_message`, `CommandError.spacesOnly_message`: the report of an error;
* `Turtle.spacesOnly_of_dispatchLine`: the report of a failed line;
* `Shell.said_on_one_line`: what a shell says about a line that is not for itself.
-/

namespace TurtleGraphics

open Text (NumeralError SpacesOnly isWord_of_mem_words lines spacesOnly_append
  spacesOnly_intercalate spacesOnly_quoted spacesOnly_toString)

/-! ## Errors -/

theorem spacesOnly_numeralError (cause : NumeralError) : SpacesOnly cause.message.toList := by
  cases cause <;> decide +kernel

/-- `ParamError.message` quotes the parameter, so it may be any text. -/
theorem ParamError.spacesOnly_message (e : ParamError) : SpacesOnly e.message.toList := by
  cases e with
  | arity expected got =>
    simp only [message, String.toList_append, spacesOnly_append]
    exact ⟨⟨⟨by decide, spacesOnly_toString expected⟩, by decide⟩, spacesOnly_toString got⟩
  | notInteger param cause =>
    simp only [message, String.toList_append, spacesOnly_append]
    exact ⟨⟨spacesOnly_quoted param, by decide⟩, spacesOnly_numeralError cause⟩

/-- `CommandError.message` does not quote `e.input`, so it has to be `SpacesOnly`. -/
theorem CommandError.spacesOnly_message {e : CommandError} (h : SpacesOnly e.input.toList) :
    SpacesOnly e.message.toList := by
  cases e with
  | unrecognized input =>
    simp only [message, String.toList_append, spacesOnly_append]
    exact ⟨⟨by decide, h⟩, by decide⟩
  | malformed input cause =>
    simp only [message, String.toList_append, spacesOnly_append]
    exact ⟨⟨⟨by decide, h⟩, by decide⟩, cause.spacesOnly_message⟩

/-- `CommandError.message` begins with a quote. -/
theorem CommandError.message_ne_empty (e : CommandError) : e.message.toList ≠ [] := by
  cases e <;> simp [message, String.toList_append]

theorem Turtle.spacesOnly_of_dispatchLine {t : Turtle} {line : String} {e : CommandError}
    (h : (t.dispatchLine line).2 = some (.error e)) : SpacesOnly e.message.toList := by
  refine CommandError.spacesOnly_message ?_
  rw [(dispatchLine_eq_error h).2]
  exact spacesOnly_intercalate fun _ hw => isWord_of_mem_words hw

/-! ## A single line -/

theorem Text.lines_of_spacesOnly {text : String} (hne : text.toList ≠ [])
    (h : SpacesOnly text.toList) : lines text = [text] := by
  have hn : '\n' ∉ text.toList := fun hm => absurd (h _ hm (by decide)) (by decide)
  rw [lines, cutLines_of_not_mem '\r' hne hn, List.map_singleton, String.ofList_toList]

/-! ## What a shell says -/

/-- There is at most one message about an `answer`. -/
theorem length_answerMessages_le (answer : Except CommandError Outcome) :
    (answerMessages answer).length ≤ 1 := by
  cases answer with
  | error e => exact Nat.le_refl 1
  | ok outcome => cases outcome <;> decide

theorem eq_message_of_mem_answerMessages {answer : Except CommandError Outcome} {text : String}
    (h : .printErr text ∈ answerMessages answer) : ∃ e, answer = .error e ∧ text = e.message := by
  cases answer with
  | error e =>
    have ht : Message.printErr text = .printErr e.message := List.mem_singleton.1 h
    exact ⟨e, rfl, Message.printErr.inj ht⟩
  | ok outcome => cases outcome <;> simp [answerMessages] at h

namespace Shell

/-- The `message` of the error of a failed command is `SpacesOnly`. For a line that does not begin
with a slash, `said` has at most one message, and a `.printErr` is the `message` of such an error
and a single line. -/
theorem said_on_one_line :
    (∀ (t : Turtle) line e, (t.dispatchLine line).2 = some (.error e) →
      SpacesOnly e.message.toList) ∧
    ∀ (s : Shell) line, firstChar? line ≠ some '/' →
      (s.execLine line).2.console = (s.said line).foldl Console.send s.console ∧
      (s.said line).length ≤ 1 ∧
      ∀ text, .printErr text ∈ s.said line →
        (∃ e, (s.turtle.dispatchLine line).2 = some (.error e) ∧ text = e.message) ∧
        SpacesOnly text.toList ∧ lines text = [text] := by
  refine ⟨fun t line e h => Turtle.spacesOnly_of_dispatchLine h, fun s line hf => ?_⟩
  have hm : Meta.ofLine? line = none := by
    rw [← Option.not_isSome_iff_eq_none, isSome_ofLine?_iff]
    exact hf
  have hs := said_of_command (s := s) hm
  refine ⟨console_execLine s line, ?_⟩
  cases ha : (s.turtle.dispatchLine line).2 with
  | none =>
    rw [ha, Option.elim_none] at hs
    rw [hs]
    exact ⟨Nat.zero_le 1, fun text ht => absurd ht List.not_mem_nil⟩
  | some answer =>
    rw [ha, Option.elim_some] at hs
    rw [hs]
    refine ⟨length_answerMessages_le answer, fun text ht => ?_⟩
    obtain ⟨e, rfl, rfl⟩ := eq_message_of_mem_answerMessages ht
    have hp := Turtle.spacesOnly_of_dispatchLine ha
    exact ⟨⟨e, rfl, rfl⟩, hp, Text.lines_of_spacesOnly e.message_ne_empty hp⟩

end Shell

end TurtleGraphics
