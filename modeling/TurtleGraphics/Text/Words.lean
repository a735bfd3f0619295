import TurtleGraphics.Text.Blank

/-!
# Words of a line

`words` cuts a line at its blank characters and keeps the pieces that hold something, so a word is a
maximal run without blanks. `trim` takes the blanks off both ends.
-/

namespace TurtleGraphics.Text

/-- The maximal runs of `cs` without a blank, in order. -/
def cutWords (cs : List Char) : List (List Char) :=
  (cs.splitOnP isBlank).filter fun w => !w.isEmpty

/-- The words of `line`, in order. -/
def words (line : String) : List String :=
  (cutWords line.toList).map String.ofList

/-- `text` without the blanks at either end. -/
def trim (text : String) : String :=
  String.ofList ((text.toList.dropWhile isBlank).reverse.dropWhile isBlank).reverse

@[simp] theorem cutWords_nil : cutWords [] = [] := by
  simp [cutWords]

/-- The blank `c` ends a word and belongs to none. -/
theorem cutWords_append_cons {c : Char} (hc : isBlank c = true) (xs ys : List Char) :
    cutWords (xs ++ c :: ys) = cutWords xs ++ cutWords ys := by
  simp [cutWords, List.splitOnP_append_cons xs ys hc, List.filter_append]

theorem cutWords_cons {c : Char} (hc : isBlank c = true) (cs : List Char) :
    cutWords (c :: cs) = cutWords cs := by
  simpa using cutWords_append_cons hc [] cs

example : words " mv\t-5  7 " = ["mv", "-5", "7"] := by decide

example : trim " \u3000a b\n" = "a b" := by decide

end TurtleGraphics.Text
