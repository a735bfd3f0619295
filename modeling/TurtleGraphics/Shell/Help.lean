import TurtleGraphics.Command.Verb

/-!
# The help text

`helpText` lists the vocabulary of the turtle and then the commands of the shell itself.
-/

namespace TurtleGraphics.Shell

/-- The lines of `helpText`. -/
def helpLines : List String :=
  ["turtle commands:"] ++ Verb.all.map (fun v => "  " ++ v.usage)
    ++ ["shell commands:",
      "  /pos                 - print the current turtle",
      "  /help                - show this help",
      "  /quit                - exit shell"]

def helpText : String :=
  "\n".intercalate helpLines

end TurtleGraphics.Shell
