import TurtleGraphics.Log
import TurtleGraphics.Proofs.Command.Dispatch
import TurtleGraphics.Proofs.Command.Kinds
import TurtleGraphics.Proofs.Text.Numeral
import TurtleGraphics.Proofs.Text.Words
import TurtleGraphics.Proofs.Turtle.Survivors

/-!
# The log as a record

Of all that the log holds, the events of the commands that were carried out are enough to make the
drawing again. `Event.line` writes such an event as a command line, from the texts of its fields
only, and `Entry` says which events a line leaves behind.

* `Command.ofLine?_line`: a command that is written as a line is read back;
* `entry_ofLine`: the events of one line;
* `recorded_ofLines`, `Turtle.dispatchLines_eq_run`: failed lines and blank ones play no part in
  what is recorded, nor in the turtle;
* `ofLines_replayable`: the lines of the events that were recorded record them again.
-/

namespace TurtleGraphics

open Text (IsWord cutWords_append_cons cutWords_cons cutWords_intercalate cutWords_nil isBlank
  readInt32 words words_intercalate)

/-! ## Commands as lines -/

namespace Command

/-- The token of `c.verb` and the integers `c.args` in decimal. -/
def line (c : Command) : String :=
  joinWords c.verb.token (c.args.toList.map fun n => toString n.toInt)

/-- The command on `line`, if there is one and it can be read. -/
def onLine? (line : String) : Option Command :=
  match ofLine? line with
  | some (.ok c) => some c
  | _ => none

theorem isWord_token (v : Verb) : IsWord v.token.toList := by
  have noBlank : v.token.toList.all (fun c => !isBlank c) = true := by
    cases v <;> decide
  exact ⟨by cases v <;> decide, by simpa using noBlank⟩

theorem isWord_toString (n : Int) : IsWord (toString n).toList := by
  refine ⟨Text.toString_ne_nil n, fun c hc => ?_⟩
  rcases Text.isDigit_or_eq_minus hc with hd | rfl
  · exact Text.isBlank_of_isDigit hd
  · decide

theorem words_line (c : Command) :
    words c.line = c.verb.token :: c.args.toList.map fun n => toString n.toInt := by
  refine words_intercalate ?_
  rintro w (_ | ⟨_, hw⟩)
  · exact isWord_token c.verb
  · obtain ⟨n, -, rfl⟩ := List.mem_map.1 hw
    exact isWord_toString n.toInt

/-- `v.readArgs` reads the integers `args` back from their decimals. -/
theorem readArgs_toString {v : Verb} (args : Vector Int32 v.arity) :
    v.readArgs (args.toList.map fun n => toString n.toInt) = .ok args := by
  have hread : (args.toList.map fun n => toString n.toInt).map readInt32 =
      args.toList.map Except.ok := by
    rw [List.map_map]
    exact List.map_congr_left fun n _ => Text.readInt32_toString n
  have hall : ∀ p ∈ args.toList.map fun n => toString n.toInt, ∃ n, readInt32 p = .ok n := by
    intro p hp
    obtain ⟨n, -, rfl⟩ := List.mem_map.1 hp
    exact ⟨n, Text.readInt32_toString n⟩
  obtain ⟨a, ha, hl⟩ := Verb.exists_readArgs_eq_ok (v := v) (.inr ⟨by simp, hall⟩)
  have hargs : a.toList = args.toList := by
    by_cases h0 : v.arity = 0
    · rw [List.eq_nil_of_length_eq_zero (a.length_toList.trans h0),
        List.eq_nil_of_length_eq_zero (args.length_toList.trans h0)]
    · rw [if_neg h0, hread] at hl
      exact List.map_injective_iff.2 (fun _ _ h => Except.ok.inj h) hl
  rw [ha, Vector.toList_inj.1 hargs]

/-- The command `c` is read back from `c.line`. -/
theorem ofLine?_line (c : Command) : ofLine? c.line = some (.ok c) := by
  rw [ofLine?, words_line]
  exact congrArg some (read_of_readArgs_ok (readArgs_toString c.args))

theorem onLine?_line (c : Command) : onLine? c.line = some c := by
  rw [onLine?, ofLine?_line]

end Command

namespace Turtle

/-- The turtle behind `dispatchLine` of each of `lines`. -/
def dispatchLines (t : Turtle) (lines : List String) : Turtle :=
  lines.foldl (fun t line => (t.dispatchLine line).1) t

theorem dispatchLine_of_onLine?_eq_some {line : String} {c : Command}
    (h : Command.onLine? line = some c) (t : Turtle) :
    t.dispatchLine line = ((t.apply c.op).1, some (.ok (t.apply c.op).2)) := by
  unfold Command.onLine? at h
  split at h
  · rename_i c' hc
    obtain rfl := Option.some.inj h
    rw [dispatchLine, hc]
    rfl
  · cases h

/-- `dispatchLine` changes nothing without a command that can be read. -/
theorem dispatchLine_of_onLine?_eq_none {line : String} (h : Command.onLine? line = none)
    (t : Turtle) : (t.dispatchLine line).1 = t := by
  unfold Command.onLine? at h
  rw [dispatchLine]
  cases hc : Command.ofLine? line with
  | none => rfl
  | some command =>
    cases command with
    | error e => rfl
    | ok c => simp [hc] at h

/-- `dispatchLines` runs the operations of the commands that can be read, and does nothing else. -/
theorem dispatchLines_eq_run (t : Turtle) (lines : List String) :
    t.dispatchLines lines = t.run ((lines.filterMap Command.onLine?).map Command.op) := by
  induction lines generalizing t with
  | nil => rfl
  | cons line lines ih =>
    have hstep : t.dispatchLines (line :: lines) =
        (t.dispatchLine line).1.dispatchLines lines := rfl
    rw [hstep, List.filterMap_cons]
    cases h : Command.onLine? line with
    | none => rw [dispatchLine_of_onLine?_eq_none h, ih]
    | some c => rw [dispatchLine_of_onLine?_eq_some h, ih, List.map_cons, run_cons]

end Turtle

namespace Log

/-! ## Events as lines -/

namespace Event

/-- The text of the field `name` of `e`, or `""` if there is no such field. -/
def field (e : Event) (name : String) : String :=
  (e.fields.lookup name).getD ""

/-- A character of an `argsText`, with a space in place of brackets and commas, which only part the
entries. -/
def partBlank (c : Char) : Char :=
  if c ∈ ['[', ',', ']'] then ' ' else c

/-- The entries of an `argsText`, as they are written there. -/
def entries (text : String) : List String :=
  words (String.ofList (text.toList.map partBlank))

/-- The command line that an event records, read from the texts of its fields `cmd` and `args`. -/
def line (e : Event) : String :=
  Command.joinWords (e.field "cmd") (entries (e.field "args"))

/-- `entries` reads `texts` back from their list if each of them is a word that `partBlank` leaves
as it is. -/
theorem entries_list {texts : List String} (hw : ∀ text ∈ texts, IsWord text.toList)
    (hk : ∀ text ∈ texts, text.toList.map partBlank = text.toList) :
    entries ("[" ++ ", ".intercalate texts ++ "]") = texts := by
  have hword : ∀ w ∈ texts.map String.toList, IsWord w := by simpa using hw
  have hkept : (texts.map String.toList).map (List.map partBlank) = texts.map String.toList := by
    rw [List.map_map]
    exact List.map_congr_left hk
  have hlist : ("[" ++ ", ".intercalate texts ++ "]").toList =
      '[' :: ([',', ' '].intercalate (texts.map String.toList) ++ [']']) := by
    simp
  have hparted :
      ('[' :: ([',', ' '].intercalate (texts.map String.toList) ++ [']'])).map partBlank =
      ' ' :: ([' ', ' '].intercalate (texts.map String.toList) ++ ' ' :: []) := by
    rw [List.map_cons, List.map_append, Text.map_intercalate, hkept]
    rfl
  have hblank : isBlank ' ' = true := Text.isBlank_space
  have hgap : ∀ c ∈ [' ', ' '], isBlank c = true := by simp [hblank]
  rw [entries, hlist, hparted, words, String.toList_ofList, cutWords_cons hblank,
    cutWords_append_cons hblank, cutWords_nil, List.append_nil,
    cutWords_intercalate (by decide) hgap hword]
  simp

/-- A decimal has neither brackets nor commas, so `partBlank` leaves it as it is. -/
theorem map_partBlank_toString (n : Int) :
    (toString n).toList.map partBlank = (toString n).toList := by
  refine (List.map_congr_left fun c hc => ?_).trans (List.map_id _)
  refine if_neg fun hm => ?_
  simp only [List.mem_cons, List.not_mem_nil, or_false] at hm
  rcases Text.isDigit_or_eq_minus hc with hd | rfl
  · rcases hm with rfl | rfl | rfl <;> cases hd
  · revert hm
    decide

theorem entries_argsText (args : List Int32) :
    entries (argsText args) = args.map fun n => toString n.toInt := by
  refine entries_list ?_ ?_
  · intro text ht
    obtain ⟨n, -, rfl⟩ := List.mem_map.1 ht
    exact Command.isWord_toString n.toInt
  · intro text ht
    obtain ⟨n, -, rfl⟩ := List.mem_map.1 ht
    exact map_partBlank_toString n.toInt

theorem line_commandApplied (c : Command) (outcome : Outcome) (history : Nat) :
    (commandApplied c outcome history).line = c.line := by
  rw [line, Command.line]
  exact congrArg _ (entries_argsText c.args.toList)

/-- The messages of the events that announce an outcome. -/
def announcements : Outcome → List String
  | .appended | .background | .undone => []
  | .reset => ["drawing reset"]
  | .undoExhausted => ["drawing reset", "no more undos available"]

end Event

/-! ## The events of a line -/

/-- The events of a line that got this answer and left the turtle `t`: none for a line without a
command, a `warn` event for one that failed, and for one that succeeded its `debug` record, behind
the `announcements` of the outcome. -/
inductive Entry (t : Turtle) : Option (Except CommandError Outcome) → List Event → Prop
  | blank : Entry t none []
  | failed {e : CommandError} {event : Event} (level : event.level = .warn)
      (input : event.field "input" = e.input) : Entry t (some (.error e)) [event]
  | succeeded {outcome : Outcome} {infos : List Event} {event : Event}
      (infoLevel : ∀ info ∈ infos, info.level = .info)
      (announced : infos.map Event.message = Event.announcements outcome)
      (level : event.level = .debug) (message : event.message = "command applied")
      (applied : event.field "applied" = Event.outcomeName outcome)
      (history : event.field "history" = toString t.history.length) :
      Entry t (some (.ok outcome)) (infos ++ [event])

theorem level_ofOp (t : Turtle) (op : Op) : ∀ e ∈ ofOp t op, e.level = .info := by
  cases op with
  | draw m => simp [ofOp]
  | background r g b => simp [ofOp]
  | reset => simp [ofOp, Event.level]
  | undo => cases h : t.pop? <;> simp [ofOp, h, Event.level]

theorem message_ofOp (t : Turtle) (op : Op) :
    (ofOp t op).map Event.message = Event.announcements (t.apply op).2 := by
  cases op with
  | undo => cases h : t.pop? <;> simp [ofOp, Turtle.apply, h, Event.announcements, Event.message]
  | _ => rfl

theorem entry_ofLine (t : Turtle) (line : String) :
    Entry (t.dispatchLine line).1 (t.dispatchLine line).2 (ofLine t line) := by
  rw [ofLine, Turtle.dispatchLine]
  rcases Command.ofLine? line with _ | (input | ⟨input, cause⟩) | c
  · exact .blank
  · exact .failed rfl rfl
  · exact .failed rfl rfl
  · exact .succeeded (level_ofOp t c.op) (message_ofOp t c.op) rfl rfl rfl rfl

/-- `dispatchLine` gives no answer only to a blank line. -/
theorem answer_eq_none_iff (t : Turtle) (line : String) :
    (t.dispatchLine line).2 = none ↔ ∀ c ∈ line.toList, isBlank c = true := by
  rw [← cutWords_eq_nil_iff, ← List.map_eq_nil_iff (f := String.ofList), ← words,
    Turtle.dispatchLine_eq_none_iff]

/-! ## The events of many lines -/

/-- The events among `events` that record commands, which are those of the level `debug`. -/
def recorded (events : List Event) : List Event :=
  events.filter fun e => e.level = .debug

/-- The records of commands that are carried out one after the other, on `t`. -/
def ofCommands (t : Turtle) : List Command → List Event
  | [] => []
  | c :: cs =>
    .commandApplied c (t.apply c.op).2 (t.apply c.op).1.history.length ::
      ofCommands (t.apply c.op).1 cs

theorem getElem?_ofLines (t : Turtle) (lines : List String) (i : Nat) :
    (ofLines false t lines)[i]? =
      lines[i]?.map fun line => ofLine (t.dispatchLines (lines.take i)) line := by
  induction lines generalizing t i with
  | nil => rfl
  | cons line lines ih =>
    cases i with
    | zero => exact congrArg some (List.append_nil _)
    | succ i => exact ih (t.dispatchLine line).1 i

theorem length_ofLines (t : Turtle) (lines : List String) :
    (ofLines false t lines).length = lines.length := by
  induction lines generalizing t with
  | nil => rfl
  | cons line lines ih => exact congrArg Nat.succ (ih _)

/-- `ofLine` records the command that `Command.onLine?` finds, and nothing without one. -/
theorem recorded_ofLine (t : Turtle) (line : String) :
    recorded (ofLine t line) = ofCommands t (Command.onLine? line).toList := by
  rw [ofLine, Command.onLine?]
  cases Command.ofLine? line with
  | none => rfl
  | some command =>
    match command with
    | .error (.unrecognized input) => rfl
    | .error (.malformed input cause) => rfl
    | .ok c =>
      have hinfo : recorded (ofOp t c.op) = [] := by
        refine List.filter_eq_nil_iff.2 fun e he => ?_
        simp [level_ofOp t c.op e he]
      have happ : recorded (ofOp t c.op ++ [.commandApplied c (t.apply c.op).2
          (t.apply c.op).1.history.length]) = recorded (ofOp t c.op) ++ recorded [.commandApplied c
            (t.apply c.op).2 (t.apply c.op).1.history.length] := List.filter_append ..
      exact happ.trans (by rw [hinfo]; rfl)

theorem recorded_ofLines (t : Turtle) (lines : List String) :
    recorded (ofLines false t lines).flatten = ofCommands t (lines.filterMap Command.onLine?) := by
  induction lines generalizing t with
  | nil => rfl
  | cons line lines ih =>
    have hstep : recorded (ofLines false t (line :: lines)).flatten =
        recorded (ofLine t line) ++
          recorded (ofLines false (t.dispatchLine line).1 lines).flatten := by
      simp [ofLines, recorded]
    rw [hstep, recorded_ofLine, ih, List.filterMap_cons]
    cases h : Command.onLine? line with
    | none => rw [Turtle.dispatchLine_of_onLine?_eq_none h]; rfl
    | some c => rw [Turtle.dispatchLine_of_onLine?_eq_some h]; rfl

theorem map_line_ofCommands (t : Turtle) (cs : List Command) :
    (ofCommands t cs).map Event.line = cs.map Command.line := by
  induction cs generalizing t with
  | nil => rfl
  | cons c cs ih => rw [ofCommands, List.map_cons, List.map_cons, ih, Event.line_commandApplied]

example :
    let events := ofLines false .fresh ["mv 1 -2", "fw x", "", "un now", "un"]
    (recorded events.flatten).map Event.line = ["mv 1 -2", "un", "un"] := by
  decide +kernel

end Log

end TurtleGraphics
