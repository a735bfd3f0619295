import TurtleGraphics.Command.Error
import TurtleGraphics.Command.Verb
import TurtleGraphics.Text.Words

/-!
# Commands

A `Command` is a verb with as many integers as it takes. `Command.read` makes one from the first
word of a line and the others: it looks the verb up, counts the parameters and then reads them from
left to right. A verb without parameters ignores what follows it. `Turtle.dispatch` reads a command
in full before it is applied, so a failed one leaves the turtle as it was.
-/

namespace TurtleGraphics

open Text (readInt32 words)

structure Command where
  verb : Verb
  args : Vector Int32 verb.arity
  deriving DecidableEq, Repr

/-- Reads every parameter with `readInt32`, or gives `ParamError.notInteger` of the leftmost that
fails. -/
def readParams : (params : List String) →
    Except ParamError { args : List Int32 // args.length = params.length }
  | [] => .ok ⟨[], rfl⟩
  | param :: params =>
    match readInt32 param with
    | .error cause => .error (.notInteger param cause)
    | .ok n =>
      match readParams params with
      | .error e => .error e
      | .ok ⟨args, h⟩ => .ok ⟨n :: args, by simp [h]⟩

/-- The `v.arity` integers of `v`, read from `params`. A verb without any takes no notice of
`params`. -/
def Verb.readArgs (v : Verb) (params : List String) :
    Except ParamError (Vector Int32 v.arity) :=
  if h : v.arity = 0 then
    .ok ⟨#[], by simp [h]⟩
  else if h : params.length = v.arity then
    (readParams params).map fun args => ⟨args.1.toArray, by simp [args.2, h]⟩
  else
    .error (.arity v.arity params.length)

namespace Command

/-- The operation that `c.verb` means with the integers `c.args`. -/
def op (c : Command) : Op :=
  c.verb.op c.args

/-- `name` and `params` with one space between each two, the `input` of a `CommandError`. -/
def joinWords (name : String) (params : List String) : String :=
  " ".intercalate (name :: params)

/-- The command whose verb has the token `name` and whose integers are read from `params`. -/
def read (name : String) (params : List String) : Except CommandError Command :=
  match Verb.ofToken? name with
  | none => .error (.unrecognized (joinWords name params))
  | some verb =>
    match verb.readArgs params with
    | .error cause => .error (.malformed (joinWords name params) cause)
    | .ok args => .ok ⟨verb, args⟩

/-- The command in the `words` of `line`, or `none` if there are none. -/
def ofLine? (line : String) : Option (Except CommandError Command) :=
  match words line with
  | [] => none
  | name :: params => some (read name params)

end Command

namespace Turtle

/-- Carries a command out with `Turtle.apply`. An error of reading it is the answer. -/
def execute (t : Turtle) : Except CommandError Command → Turtle × Except CommandError Outcome
  | .error e => (t, .error e)
  | .ok c =>
    let (t, outcome) := t.apply c.op
    (t, .ok outcome)

/-- Carries out `Command.read name params`. -/
def dispatch (t : Turtle) (name : String) (params : List String) :
    Turtle × Except CommandError Outcome :=
  t.execute (Command.read name params)

/-- Carries out `Command.ofLine? line`. The answer is `none` if `line` is blank. -/
def dispatchLine (t : Turtle) (line : String) :
    Turtle × Option (Except CommandError Outcome) :=
  match Command.ofLine? line with
  | none => (t, none)
  | some command =>
    let (t, answer) := t.execute command
    (t, some answer)

/-- A `dispatch` that fails leaves the turtle as it was. -/
theorem dispatch_error {t t' : Turtle} {name : String} {params : List String} {e : CommandError}
    (h : t.dispatch name params = (t', .error e)) : t' = t := by
  unfold dispatch at h
  cases hc : Command.read name params <;> simp_all [execute]

end Turtle

end TurtleGraphics
