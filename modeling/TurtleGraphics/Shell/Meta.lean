import TurtleGraphics.Text.Words

/-!
# Commands of the shell itself

A line that begins with a slash, blanks aside, is for the shell and not for the turtle. What follows
the slash is the name of a `Meta` command or a part of one from its first letter on.
-/

namespace TurtleGraphics

open Text (isBlank trim)

inductive Meta where
  | help
  | pos
  | quit
  | unknown (text : String)
  deriving DecidableEq, Repr

namespace Meta

/-- The names, each with what it asks for. `ofName` takes the first that fits. -/
def names : List (String × Meta) :=
  [("help", .help), ("pos", .pos), ("quit", .quit)]

/-- The command that `text`, which has no blanks at its ends, asks for. -/
def ofName (text : String) : Meta :=
  if text = "" then .unknown text
  else if text = "?" then .help
  else
    match names.find? fun entry => text.toList.isPrefixOf entry.1.toList with
    | some entry => entry.2
    | none => .unknown text

/-- What follows the slash with which `line` begins, blanks aside. -/
def afterSlash? (line : String) : Option String :=
  match line.toList.dropWhile isBlank with
  | '/' :: rest => some (String.ofList rest)
  | _ => none

/-- The command on `line` if the line is for the shell, and `none` if it is for the turtle. -/
def ofLine? (line : String) : Option Meta :=
  (afterSlash? line).map fun text => ofName (trim text)

example : ofLine? "\t / qu " = some .quit ∧ ofLine? "/" = some (.unknown "") := by decide +kernel

example : ofLine? "/helper" = some (.unknown "helper") ∧ ofLine? "?" = none := by decide +kernel

end Meta

end TurtleGraphics
