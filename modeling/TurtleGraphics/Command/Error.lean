import TurtleGraphics.Text.Numeral
import TurtleGraphics.Text.Quoted

/-!
# Errors of a command

A command fails because its first word is no verb, or because its parameters are not as many
integers as the verb takes. Each error keeps the words of the command, and `message` puts it into
words.
-/

namespace TurtleGraphics

open Text (NumeralError quoted)

/-- Why the parameters of a command do not fit its verb. -/
inductive ParamError where
  | arity (expected got : Nat)
  | notInteger (param : String) (cause : NumeralError)
  deriving DecidableEq, Repr

def ParamError.message : ParamError → String
  | .arity expected got =>
    "expected " ++ toString expected ++ " parameters, got " ++ toString got
  | .notInteger param cause =>
    quoted param ++ " is not an integer: " ++ cause.message

/-- Why a command was not carried out. `input` is the command as it was given, in the form of
`Command.joinWords`. -/
inductive CommandError where
  | unrecognized (input : String)
  | malformed (input : String) (cause : ParamError)
  deriving DecidableEq, Repr

def CommandError.input : CommandError → String
  | .unrecognized input => input
  | .malformed input _ => input

def CommandError.message : CommandError → String
  | .unrecognized input => "\"" ++ input ++ "\" not recognized"
  | .malformed input cause => "\"" ++ input ++ "\" not understood: " ++ cause.message

end TurtleGraphics
