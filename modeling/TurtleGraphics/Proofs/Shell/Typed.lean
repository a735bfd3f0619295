import TurtleGraphics.Proofs.Console.Waits
import TurtleGraphics.Proofs.Shell.Quiet

/-!
# Typed input

A session writes its prompt before each line, and `Console.lineSkipped` for every line that could
not be decoded, where it came. `Turtle.typedEffect` is all that an input does, one arrival after the
other.

* `Turtle.typedEffect_eq`: the same, one wait after the other;
* `Shell.exists_typed`: a session at a prompt, its lines, and what it does;
* `Turtle.count_prompt`, `Turtle.count_lineSkipped`: how many invitations and reports there are.
-/

namespace TurtleGraphics

open Wait (ofArrivals)

/-- How a session that reads `lines` ends if there are no events. -/
def Ending.ofLines (lines : List String) : Ending :=
  if ∃ line ∈ lines, Quits line then .quit else .inputEnded

namespace Ending

variable {line : String} {lines : List String}

theorem ofLines_cons_of_quits (h : Quits line) (lines : List String) :
    ofLines (line :: lines) = .quit :=
  if_pos ⟨line, List.mem_cons_self, h⟩

theorem ofLines_cons (h : ¬ Quits line) (lines : List String) :
    ofLines (line :: lines) = ofLines lines := by
  simp [ofLines, h]

end Ending

/-- What a session reads of `input`: all in front of the line that `Quits` or the `.failure` that
ends it. -/
def heeded (input : List Arrival) : List Arrival :=
  input.takeWhile fun a => a ≠ .failure ∧ ∀ line ∈ a.line?, ¬ Quits line

/-- The message is neither a prompt nor `Console.lineSkipped`. -/
def Message.IsReply : Message → Prop
  | .print _ => True
  | .printErr text => text ≠ Console.lineSkipped
  | .prompt _ => False

/-- A text that does not begin with `l` is not `Console.lineSkipped`. -/
theorem ne_lineSkipped {text : String} (h : text.toList.head? ≠ some 'l') :
    text ≠ Console.lineSkipped := by
  rintro rfl
  exact h rfl

theorem isReply_of_mem_answerMessages {answer : Except CommandError Outcome} {m : Message}
    (h : m ∈ answerMessages answer) : m.IsReply := by
  cases answer with
  | error e =>
    obtain rfl := List.mem_singleton.1 h
    refine ne_lineSkipped ?_
    cases e <;> simp [CommandError.message, String.toList_append]
  | ok outcome =>
    cases outcome with
    | undoExhausted =>
      obtain rfl := List.mem_singleton.1 h
      trivial
    | appended | background | reset | undone => cases h

namespace Turtle

/-- The effect of `Console.invite`. -/
def inviteEffect (t : Turtle) (prompt : Option String) : Effect :=
  { turtle := t, messages := (prompt.map Message.prompt).toList }

/-- The effect of skipping `skipped` lines: one `Console.lineSkipped` for each. -/
def skipEffect (t : Turtle) (skipped : Nat) : Effect :=
  { turtle := t, messages := List.replicate skipped (.printErr Console.lineSkipped) }

/-- What a session does with an input without events, from the first `prompt` on. -/
def typedEffect (prompt : Option String) (t : Turtle) : List Arrival → Effect
  | [] => { ending := some .inputEnded, turtle := t }
  | .line text :: rest =>
    (t.effect text).andThen fun t => (t.inviteEffect prompt).followedBy (t.typedEffect prompt rest)
  | .undecodable :: rest => (t.skipEffect 1).followedBy (t.typedEffect prompt rest)
  | .failure :: _ => { ending := some .inputEnded, turtle := t }
  | .event _ :: rest => t.typedEffect prompt rest

/-- `typedEffect` wait by wait: what `ofArrivals` tells of the first, and then what is left of the
input. -/
theorem typedEffect_eq (prompt : Option String) (t : Turtle) (input : List Arrival) :
    t.typedEffect prompt input =
      (t.skipEffect (ofArrivals input).skipped).followedBy
        (match (ofArrivals input).line with
        | none => { ending := some .inputEnded, turtle := t }
        | some text =>
          (t.effect text).andThen fun t =>
            (t.inviteEffect prompt).followedBy (t.typedEffect prompt (ofArrivals input).rest)) := by
  induction input with
  | nil => rfl
  | cons a rest ih =>
    cases a with
    | line text => rfl
    | failure => rfl
    | event e => exact ih
    | undecodable =>
      rw [typedEffect, ih]
      rfl

/-- The case of `typedEffect_eq` in which the wait brings no line. -/
theorem typedEffect_of_line_eq_none (prompt : Option String) (t : Turtle) {input : List Arrival}
    (h : (ofArrivals input).line = none) :
    t.typedEffect prompt input =
      { t.skipEffect (ofArrivals input).skipped with ending := some .inputEnded } := by
  rw [typedEffect_eq, h, Effect.followedBy, List.append_nil]
  rfl

theorem typedEffect_of_quits (prompt : Option String) (t : Turtle) {input : List Arrival}
    {line : String} (h : (ofArrivals input).line = some line) (hq : Quits line) :
    t.typedEffect prompt input =
      { t.skipEffect (ofArrivals input).skipped with ending := some .quit } := by
  rw [typedEffect_eq, h]
  dsimp only
  rw [effect_of_quits hq, Effect.andThen_of_ends rfl, Effect.followedBy, List.append_nil]
  rfl

theorem typedEffect_of_goes_on (prompt : Option String) (t : Turtle) {input : List Arrival}
    {line : String} (h : (ofArrivals input).line = some line) (hq : ¬ Quits line) :
    t.typedEffect prompt input =
      (t.skipEffect (ofArrivals input).skipped).followedBy
        ((t.effect line).followedBy (((t.effect line).turtle.inviteEffect prompt).followedBy
          ((t.effect line).turtle.typedEffect prompt (ofArrivals input).rest))) := by
  rw [typedEffect_eq, h]
  dsimp only
  rw [Effect.andThen_of_goes_on (ending_effect hq t)]

/-! ## What is heard -/

/-- The messages of a line are replies. -/
theorem isReply_of_mem_effect {t : Turtle} {line : String} {m : Message}
    (h : m ∈ (t.effect line).messages) : m.IsReply := by
  rw [effect] at h
  cases hm : Meta.ofLine? line with
  | some c =>
    rw [hm] at h
    cases c with
    | help | pos =>
      obtain rfl := List.mem_singleton.1 h
      trivial
    | quit => cases h
    | unknown text =>
      obtain rfl := List.mem_singleton.1 h
      exact ne_lineSkipped (by simp [String.toList_append])
  | none =>
    rw [hm] at h
    generalize t.dispatchLine line = dispatched at h
    obtain ⟨t', - | answer⟩ := dispatched
    · cases h
    · exact isReply_of_mem_answerMessages h

theorem count_messages_effect {m : Message} (hm : ¬ m.IsReply) (t : Turtle) (line : String) :
    (t.effect line).messages.count m = 0 :=
  List.count_eq_zero.2 fun h => hm (isReply_of_mem_effect h)

/-- `prompt` is written for each line that is executed, and once more if the input ends. The first
one comes before `typedEffect`. -/
theorem count_prompt (prompt : String) (t : Turtle) (input : List Arrival) :
    (t.typedEffect (some prompt) input).messages.count (.prompt prompt) + 1 =
      (throughQuit (legible input)).length +
        if Ending.ofLines (legible input) = .inputEnded then 1 else 0 := by
  have hskip (t : Turtle) (n : Nat) : (t.skipEffect n).messages.count (.prompt prompt) = 0 := by
    simp [skipEffect, List.count_replicate]
  induction input using Wait.wait_induction generalizing t with
  | ended input hl =>
    rw [typedEffect_of_line_eq_none _ _ hl, (Wait.of_line_eq_none hl).1, hskip]
    rfl
  | line input line hl ih =>
    rw [(Wait.of_line_eq_some hl).1]
    by_cases hq : Quits line
    · rw [typedEffect_of_quits _ _ hl hq, throughQuit_cons_of_quits hq,
        Ending.ofLines_cons_of_quits hq, hskip]
      rfl
    · have hi := ih (t.effect line).turtle
      have hp : ((t.effect line).turtle.inviteEffect (some prompt)).messages =
          [.prompt prompt] := rfl
      rw [typedEffect_of_goes_on _ _ hl hq, throughQuit_cons hq, Ending.ofLines_cons hq,
        Effect.followedBy, Effect.followedBy, Effect.followedBy, List.count_append,
        List.count_append, List.count_append, hskip, count_messages_effect id, hp,
        List.count_singleton_self, List.length_cons]
      omega

/-- `Console.lineSkipped` is written once for each `.undecodable` arrival that is read. -/
theorem count_lineSkipped (prompt : Option String) (t : Turtle) (input : List Arrival) :
    (t.typedEffect prompt input).messages.count (.printErr Console.lineSkipped) =
      (heeded input).count .undecodable := by
  have hn : ¬ (Message.printErr Console.lineSkipped).IsReply := fun h => h rfl
  have hinvite (t : Turtle) :
      (t.inviteEffect prompt).messages.count (.printErr Console.lineSkipped) = 0 := by
    cases prompt <;> rfl
  induction input generalizing t with
  | nil => rfl
  | cons a rest ih =>
    cases a with
    | failure => rfl
    | event e => exact ih t
    | undecodable =>
      have hh : heeded (.undecodable :: rest) = .undecodable :: heeded rest := by
        simp [heeded, Arrival.line?]
      have hs : (t.skipEffect 1).messages = [.printErr Console.lineSkipped] := rfl
      rw [typedEffect, Effect.followedBy, hs, hh, List.count_append, List.count_singleton_self, ih,
        List.count_cons_self, Nat.add_comm]
    | line text =>
      by_cases hq : Quits text
      · have hh : heeded (.line text :: rest) = [] := by simp [heeded, Arrival.line?, hq]
        rw [typedEffect_of_quits _ _ rfl hq, hh]
        rfl
      · have hh : heeded (.line text :: rest) = .line text :: heeded rest := by
          simp [heeded, Arrival.line?, hq]
        have hs : (t.skipEffect (ofArrivals (.line text :: rest)).skipped).messages = [] := rfl
        rw [typedEffect_of_goes_on _ _ rfl hq, hh, Effect.followedBy, Effect.followedBy,
          Effect.followedBy, hs, List.nil_append, List.count_append, List.count_append,
          count_messages_effect hn, hinvite, Nat.zero_add, Nat.zero_add,
          List.count_cons_of_ne (by simp)]
        exact ih _

end Turtle

namespace Shell

variable {s : Shell} {input : List Arrival}

theorem prompt_after (s : Shell) (e : Effect) :
    (s.after e).console.prompt = s.console.prompt := by
  rw [after, Console.foldl_send]

/-- If no event waits, `ready` has the `inviteEffect`. -/
theorem ready_withInput (h : s.window.takeEvents.1 = []) (input : List Arrival) :
    (s.withInput input).ready =
      (none, (s.after (s.turtle.inviteEffect s.console.prompt)).withInput input) := by
  have hs : (s.withInput input).window.takeEvents.1 = [] := h
  rw [ready_of_silent hs, Console.invite, after, Turtle.inviteEffect, withInput, withInput]
  cases s.console.prompt <;> rfl

/-- If no event comes first, `readLine` has the `skipEffect`. -/
theorem readLine_withInput (s : Shell) (he : (ofArrivals input).events = []) :
    (s.withInput input).readLine =
      ((ofArrivals input).line,
        (s.after (s.turtle.skipEffect (ofArrivals input).skipped)).withInput
          (ofArrivals input).rest) := by
  have hp (c : Console) (n : Nat) :
      (List.replicate n Console.lineSkipped).foldl Console.printErr c =
        (List.replicate n (Message.printErr Console.lineSkipped)).foldl Console.send c := by
    rw [← List.map_replicate, List.foldl_map]
    rfl
  rw [readLine, Console.readLine]
  dsimp only
  rw [hp, Console.foldl_send, after, Turtle.skipEffect, Console.foldl_send]
  simp [withInput, he]

/-- A `Session` at a prompt executes the `legible` lines of `input`, up to the first that `Quits`,
and has the `typedEffect`. -/
theorem exists_typed (h : s.window.takeEvents.1 = []) (he : ∀ a ∈ input, a.event? = none) :
    ∃ steps unread,
      Session (s.withInput input) steps (.ofLines (legible input))
        ((s.after ((s.turtle.inviteEffect s.console.prompt).followedBy
          (s.turtle.typedEffect s.console.prompt input))).withInput unread) ∧
      steps.map Step.line = throughQuit (legible input) := by
  -- Each wait begins in a shell whose window is silent, as the one before did.
  induction input using Wait.wait_induction generalizing s with
  | ended input hl =>
    have hready := ready_withInput h input
    have hread := readLine_withInput (s.after (s.turtle.inviteEffect s.console.prompt))
      (Wait.events_eq_nil he)
    rw [hl] at hread
    rw [Turtle.typedEffect_of_line_eq_none _ _ hl, (Wait.of_line_eq_none hl).1, ← after_after]
    exact ⟨[], _, .ended hready hread, rfl⟩
  | line input line hl ih =>
    have hready := ready_withInput h input
    have hread := readLine_withInput (s.after (s.turtle.inviteEffect s.console.prompt))
      (Wait.events_eq_nil he)
    rw [hl] at hread
    rw [(Wait.of_line_eq_some hl).1]
    by_cases hq : Quits line
    · rw [Turtle.typedEffect_of_quits _ _ hl hq, throughQuit_cons_of_quits hq,
        Ending.ofLines_cons_of_quits hq, ← after_after]
      exact ⟨[⟨line, _⟩], _, .last hready hread (execLine_of_quits hq), rfl⟩
    · have hexec := execLine_withInput hq ((s.after (s.turtle.inviteEffect s.console.prompt)).after
        (s.turtle.skipEffect (ofArrivals input).skipped)) (ofArrivals input).rest
      have hr (a) (ha : a ∈ (ofArrivals input).rest) : a.event? = none :=
        he a ((Wait.rest_suffix input).subset ha)
      have hs := silent_after (silent_after (silent_after h
        (s.turtle.inviteEffect s.console.prompt)) (s.turtle.skipEffect (ofArrivals input).skipped))
        (s.turtle.effect line)
      obtain ⟨steps, unread, hsession, hlines⟩ := ih hs hr
      rw [prompt_after, prompt_after, prompt_after] at hsession
      rw [Turtle.typedEffect_of_goes_on _ _ hl hq, throughQuit_cons hq, Ending.ofLines_cons hq,
        ← after_after, ← after_after, ← after_after]
      exact ⟨⟨line, _⟩ :: steps, unread, .next hready hread hexec hsession,
        congrArg (line :: ·) hlines⟩

/-- The same from `start` on, with `opening` in front. -/
theorem exists_typed_start (h : s.window.takeEvents.1 = []) (he : ∀ a ∈ input, a.event? = none) :
    ∃ steps s', Session (s.withInput input).start steps (.ofLines (legible input)) s' ∧
      steps.map Step.line = throughQuit (legible input) ∧
      s'.console.output = (s.opening.followedBy
        ((s.turtle.inviteEffect s.console.prompt).followedBy
          (s.turtle.typedEffect s.console.prompt input))).messages.foldl Link.send
            s.console.output := by
  obtain ⟨steps, unread, hs, hl⟩ := exists_typed (silent_after h s.opening) he
  rw [prompt_after, after_after, ← start_withInput] at hs
  exact ⟨steps, _, hs, hl, Console.output_foldl_send _ _⟩

end Shell

end TurtleGraphics
