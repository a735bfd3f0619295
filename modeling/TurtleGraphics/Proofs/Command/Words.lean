import TurtleGraphics.Command
import TurtleGraphics.Proofs.Text.Words

/-!
# A command line means its words

How the words of a line are spaced plays no part in what the turtle does with it. A command that
fails keeps its words, joined by single spaces, and they fail again for the same reason. Behind a
verb without parameters, no word plays a part at all.

* `Turtle.dispatchLine_of_words_eq`: the same words do the same;
* `Command.input_of_read_error`, `Turtle.dispatchLine_eq_error`: the words that an error keeps;
* `Command.read_of_arity_eq_zero`: a verb without parameters;
* `Turtle.dispatchLine_means_words`: all of this for the words as runs of characters.
-/

namespace TurtleGraphics

open Text (HasWords words words_eq_iff words_intercalate_words)

namespace Command

variable {name : String} {params : List String}

/-- The error of `Command.read` keeps the words of the command. -/
theorem input_of_read_error {e : CommandError} (h : read name params = .error e) :
    e.input = " ".intercalate (name :: params) := by
  unfold read at h
  split at h
  · obtain rfl := Except.error.inj h
    rfl
  · split at h
    · obtain rfl := Except.error.inj h
      rfl
    · cases h

/-- A verb with `v.arity = 0` ignores `params`. -/
theorem read_of_arity_eq_zero {v : Verb} (h : v.arity = 0) (params : List String) :
    read v.token params = read v.token [] := by
  simp only [read, Verb.ofToken?_token, Verb.readArgs, dif_pos h]

end Command

namespace Turtle

variable {line line' : String}

theorem dispatchLine_of_words_eq (h : words line = words line') (t : Turtle) :
    t.dispatchLine line = t.dispatchLine line' := by
  rw [dispatchLine, dispatchLine, Command.ofLine?, Command.ofLine?, h]

theorem dispatchLine_of_words_eq_nil (h : words line = []) (t : Turtle) :
    t.dispatchLine line = (t, none) := by
  rw [dispatchLine, Command.ofLine?, h]

/-- The first of the `words` of a line is the name that `dispatch` gets. -/
theorem dispatchLine_of_words_eq_cons {name : String} {params : List String}
    (h : words line = name :: params) (t : Turtle) :
    t.dispatchLine line = ((t.dispatch name params).1, some (t.dispatch name params).2) := by
  rw [dispatchLine, Command.ofLine?, h]
  rfl

/-- `dispatchLine` gives no answer only to a line without `words`. -/
theorem dispatchLine_eq_none_iff {t : Turtle} :
    (t.dispatchLine line).2 = none ↔ words line = [] := by
  cases h : words line with
  | nil => simp [dispatchLine_of_words_eq_nil h]
  | cons name params => simp [dispatchLine_of_words_eq_cons h]

/-- A `dispatchLine` that fails leaves the turtle alone, and its error keeps the `words` of the
line. -/
theorem dispatchLine_eq_error {t : Turtle} {e : CommandError}
    (h : (t.dispatchLine line).2 = some (.error e)) :
    t.dispatchLine line = (t, some (.error e)) ∧ e.input = " ".intercalate (words line) := by
  cases hw : words line with
  | nil =>
    rw [dispatchLine_of_words_eq_nil hw] at h
    cases h
  | cons name params =>
    rw [dispatchLine_of_words_eq_cons hw, dispatch] at h ⊢
    cases hr : Command.read name params with
    | ok c =>
      rw [hr] at h
      cases h
    | error e' =>
      rw [hr] at h
      obtain rfl : e' = e := Except.error.inj (Option.some.inj h)
      exact ⟨rfl, Command.input_of_read_error hr⟩

/-- `Turtle.dispatchLine` goes by the `words` of a line: the maximal runs of characters that are no
blanks. The `input` that the error of a failed line keeps fails for the same reason as the line, and
behind a verb with `v.arity = 0` the words may be left out. -/
theorem dispatchLine_means_words (t : Turtle) :
    (∀ line ws, words line = ws ↔ HasWords line.toList (ws.map String.toList)) ∧
    (∀ line line', words line = words line' → t.dispatchLine line = t.dispatchLine line') ∧
    (∀ line, words line = [] → t.dispatchLine line = (t, none)) ∧
    (∀ line, (t.dispatchLine line).2 = none → words line = []) ∧
    (∀ line e, (t.dispatchLine line).2 = some (.error e) →
      e.input = " ".intercalate (words line) ∧ words e.input = words line ∧
      t.dispatchLine line = (t, some (.error e)) ∧
      t.dispatchLine e.input = (t, some (.error e))) ∧
    ∀ (v : Verb) params, v.arity = 0 →
      t.dispatch v.token params = t.dispatch v.token [] ∧
      ∀ line line', words line = v.token :: params → words line' = [v.token] →
        t.dispatchLine line = t.dispatchLine line' := by
  refine ⟨fun _ _ => words_eq_iff, fun _ _ h => dispatchLine_of_words_eq h t,
    fun _ h => dispatchLine_of_words_eq_nil h t, fun _ h => dispatchLine_eq_none_iff.1 h,
    fun line e h => ?_, fun v params h0 => ?_⟩
  · obtain ⟨he, hi⟩ := dispatchLine_eq_error h
    have hw : words e.input = words line := by rw [hi, words_intercalate_words]
    exact ⟨hi, hw, he, by rw [dispatchLine_of_words_eq hw, he]⟩
  · have hd : t.dispatch v.token params = t.dispatch v.token [] := by
      rw [dispatch, dispatch, Command.read_of_arity_eq_zero h0]
    refine ⟨hd, fun line line' h h' => ?_⟩
    rw [dispatchLine_of_words_eq_cons h, dispatchLine_of_words_eq_cons h', hd]

end Turtle

end TurtleGraphics
