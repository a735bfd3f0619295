import TurtleGraphics.Turtle

/-!
# The vocabulary

A `Verb` is the first word of a command. Each has a token of two letters, the names of the integers
that follow it, a line of help, and the operation that it means for those integers. `Verb.ofToken?`
looks a verb up, and `Verb.usage` is its line in the help text.
-/

namespace TurtleGraphics

inductive Verb where
  | move | face | forward | back | turnLeft | turnRight | penUp | penDown
  | penColor | background | reset | undo | rectangle
  deriving DecidableEq, Repr

namespace Verb

/-- Every verb, in the order of `Shell.helpText`. -/
def all : List Verb :=
  [.move, .face, .forward, .back, .turnLeft, .turnRight, .penUp, .penDown, .penColor, .background,
    .reset, .undo, .rectangle]

def token : Verb → String
  | .move => "mv"
  | .face => "hd"
  | .forward => "fw"
  | .back => "bk"
  | .turnLeft => "tl"
  | .turnRight => "tr"
  | .penUp => "pu"
  | .penDown => "pd"
  | .penColor => "pc"
  | .background => "bg"
  | .reset => "rs"
  | .undo => "un"
  | .rectangle => "re"

/-- The names of the integers that a verb takes, as `usage` shows them. -/
def params : Verb → List String
  | .move => ["x", "y"]
  | .face | .turnLeft | .turnRight => ["deg"]
  | .forward | .back => ["dist"]
  | .penColor | .background => ["r", "g", "b"]
  | .rectangle => ["w", "h"]
  | .penUp | .penDown | .reset | .undo => []

/-- How many integers `v` takes, one for each name in `params`. -/
def arity (v : Verb) : Nat :=
  v.params.length

def help : Verb → String
  | .move => "move to absolute position"
  | .face => "face absolute direction"
  | .forward => "move forward"
  | .back => "move backward"
  | .turnLeft => "turn left"
  | .turnRight => "turn right"
  | .penUp => "pen up"
  | .penDown => "pen down"
  | .penColor => "pen color, components 0-255"
  | .background => "background color, components 0-255"
  | .reset => "reset drawing"
  | .undo => "undo last command"
  | .rectangle => "rectangle below and beside the turtle"

/-- The operation that `v` means with these integers. -/
def op : (v : Verb) → Vector Int32 v.arity → Op
  | .move, (a : Vector Int32 2) => .draw (.moveTo a[0] a[1])
  | .face, (a : Vector Int32 1) => .draw (.face a[0])
  | .forward, (a : Vector Int32 1) => .draw (.forward a[0])
  | .back, (a : Vector Int32 1) => .draw (.back a[0])
  | .turnLeft, (a : Vector Int32 1) => .draw (.turnLeft a[0])
  | .turnRight, (a : Vector Int32 1) => .draw (.turnRight a[0])
  | .penUp, _ => .draw .penUp
  | .penDown, _ => .draw .penDown
  | .penColor, (a : Vector Int32 3) => .draw (.penColor a[0] a[1] a[2])
  | .background, (a : Vector Int32 3) => .background a[0] a[1] a[2]
  | .reset, _ => .reset
  | .undo, _ => .undo
  | .rectangle, (a : Vector Int32 2) => .draw (.rectangle a[0] a[1])

/-- The verb `v` with `v.token = token`. -/
def ofToken? (token : String) : Option Verb :=
  all.find? fun v => v.token == token

/-- `v.token` and the names in `v.params`, in a column of twenty characters, and `v.help`. -/
def usage (v : Verb) : String :=
  let call := v.params.foldl (fun text param => text ++ " <" ++ param ++ ">") v.token
  String.ofList (call.toList.rightpad 20 ' ') ++ " - " ++ v.help

theorem mem_all (v : Verb) : v ∈ all := by
  cases v <;> decide

theorem token_injective {v w : Verb} (h : v.token = w.token) : v = w := by
  revert h
  cases v <;> cases w <;> decide

@[simp] theorem ofToken?_token (v : Verb) : ofToken? v.token = some v := by
  cases v <;> decide

theorem ofToken?_eq_some_iff {token : String} {v : Verb} :
    ofToken? token = some v ↔ v.token = token := by
  constructor
  · intro h
    simpa using List.find?_some h
  · rintro rfl
    exact ofToken?_token v

theorem ofToken?_eq_none_iff {token : String} :
    ofToken? token = none ↔ ∀ v : Verb, v.token ≠ token := by
  rw [Option.eq_none_iff_forall_ne_some]
  exact forall_congr' fun v => not_congr ofToken?_eq_some_iff

end Verb

end TurtleGraphics
