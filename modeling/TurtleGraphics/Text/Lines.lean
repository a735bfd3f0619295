/-!
# Lines of a text

A text is cut behind each newline. The newline is dropped, and with it one carriage return right in
front of it. What follows the last newline is a line of its own if there is anything, and keeps a
carriage return at its end. `cutLines` does this over any alphabet, so the same rule serves
characters and bytes.
-/

namespace TurtleGraphics.Text

variable {α : Type} [DecidableEq α]

/-- The lines of a sequence, given what its `newline` and its `carriageReturn` are. -/
def cutLines (newline carriageReturn : α) : List α → List (List α)
  | [] => []
  | c :: cs =>
    if c = newline then
      [] :: cutLines newline carriageReturn cs
    else if c = carriageReturn ∧ cs.head? = some newline then
      cutLines newline carriageReturn cs
    else
      match cutLines newline carriageReturn cs with
      | [] => [[c]]
      | line :: rest => (c :: line) :: rest

/-- The lines of `text`, each without its end. -/
def lines (text : String) : List String :=
  (cutLines '\n' '\r' text.toList).map String.ofList

@[simp] theorem cutLines_nil (nl cr : α) : cutLines nl cr [] = [] := rfl

@[simp] theorem cutLines_newline (nl cr : α) (cs : List α) :
    cutLines nl cr (nl :: cs) = [] :: cutLines nl cr cs := by
  simp [cutLines]

example : lines "a\r\nb\n\nc\r" = ["a", "b", "", "c\r"] := by decide

example : lines "\n" = [""] ∧ lines "" = [] := by decide

end TurtleGraphics.Text
