/-!
# Errors of reading

What can go wrong when text is read from a file or a stream.
-/

namespace TurtleGraphics

inductive ReadError where
  /-- The system refused, for a reason that has a text and a number. -/
  | system (description : String) (code : Nat)
  /-- The bytes are not the UTF-8 form of a text. -/
  | notText
  deriving DecidableEq, Repr

namespace ReadError

def noSuchFile : ReadError := .system "No such file or directory" 2

def permissionDenied : ReadError := .system "Permission denied" 13

def notDirectory : ReadError := .system "Not a directory" 20

def isDirectory : ReadError := .system "Is a directory" 21

def message : ReadError → String
  | .system description code => description ++ " (os error " ++ toString code ++ ")"
  | .notText => "stream did not contain valid UTF-8"

end ReadError

end TurtleGraphics
