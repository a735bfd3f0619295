import TurtleGraphics.Log
import TurtleGraphics.Proofs.Console.Turns

/-!
# Waits one after the other

Lines are awaited again and again on one input, and each wait begins where the one before has
stopped. `Wait.nth` is one of these waits, and `legible` are the lines that they bring.

* `Wait.nth_line`: the lines come in order, each once, until reading fails or the input ends;
* `Wait.rest_nth`: the wait that brings no line has read up to the failure and not further;
* `Log.ofArrivals_eq`, `Console.readLine_eq`: what a wait leaves in the log, and what of it is
  reported.
-/

namespace TurtleGraphics

/-- The `Arrival.line`s of an input, up to the first `Arrival.failure`. -/
def legible (input : List Arrival) : List String :=
  (input.takeWhile (· ≠ .failure)).filterMap Arrival.line?

namespace Wait

/-- The wait behind `n` others, each of which begins where the one before has stopped. -/
def nth (input : List Arrival) : Nat → Wait
  | 0 => ofArrivals input
  | n + 1 => nth (ofArrivals input).rest n

/-- Induction on an input wait by wait. -/
@[elab_as_elim]
theorem wait_induction {motive : List Arrival → Prop}
    (ended : ∀ input, (ofArrivals input).line = none → motive input)
    (line : ∀ input text, (ofArrivals input).line = some text → motive (ofArrivals input).rest →
      motive input) (input : List Arrival) : motive input := by
  induction hn : input.length using Nat.strongRecOn generalizing input with
  | ind n ih =>
    cases hl : (ofArrivals input).line with
    | none => exact ended input hl
    | some text => exact line input text hl (ih _ (hn ▸ length_rest_ofArrivals hl) _ rfl)

/-- The `rest` of a wait is the end of the input. -/
theorem rest_suffix (input : List Arrival) : (ofArrivals input).rest <:+ input := by
  induction input with
  | nil => exact List.suffix_rfl
  | cons a rest ih =>
    cases a with
    | line | failure => exact List.suffix_cons _ rest
    | undecodable | event => exact ih.trans (List.suffix_cons _ rest)

theorem events_eq_nil {input : List Arrival} (h : ∀ a ∈ input, a.event? = none) :
    (ofArrivals input).events = [] := by
  induction input with
  | nil => rfl
  | cons a rest ih =>
    obtain ⟨ha, hr⟩ := List.forall_mem_cons.1 h
    cases a with
    | line | failure => rfl
    | undecodable => exact ih hr
    | event => cases ha

/-- A wait without a line finds no `legible` one, and has read up to the `failure`. -/
theorem of_line_eq_none {input : List Arrival} (h : (ofArrivals input).line = none) :
    legible input = [] ∧ (ofArrivals input).rest = (input.dropWhile (· ≠ .failure)).tail := by
  induction input with
  | nil => exact ⟨rfl, rfl⟩
  | cons a rest ih =>
    cases a with
    | line => cases h
    | failure => exact ⟨rfl, rfl⟩
    | undecodable | event => exact ih h

/-- A wait takes the first `legible` line. -/
theorem of_line_eq_some {input : List Arrival} {text : String}
    (h : (ofArrivals input).line = some text) :
    legible input = text :: legible (ofArrivals input).rest ∧
      (ofArrivals input).rest.dropWhile (· ≠ .failure) = input.dropWhile (· ≠ .failure) := by
  induction input with
  | nil => cases h
  | cons a rest ih =>
    cases a with
    | line =>
      obtain rfl := Option.some.inj h
      exact ⟨rfl, rfl⟩
    | failure => cases h
    | undecodable | event => exact ih h

/-- Waits bring the `legible` lines in order, each once, and then none. -/
theorem nth_line {input : List Arrival} {n : Nat} (h : n ≤ (legible input).length) :
    (nth input n).line = (legible input)[n]? := by
  induction n generalizing input with
  | zero =>
    rw [nth]
    cases hl : (ofArrivals input).line with
    | none => rw [(of_line_eq_none hl).1, List.getElem?_nil]
    | some text => rw [(of_line_eq_some hl).1, List.getElem?_cons_zero]
  | succ n ih =>
    rw [nth]
    cases hl : (ofArrivals input).line with
    | none =>
      rw [(of_line_eq_none hl).1] at h
      cases h
    | some text =>
      rw [(of_line_eq_some hl).1] at h ⊢
      rw [List.getElem?_cons_succ, ih (Nat.le_of_succ_le_succ h)]

/-- The first wait without a line has read up to the `failure`, if there is one. -/
theorem rest_nth (input : List Arrival) :
    (nth input (legible input).length).rest = (input.dropWhile (· ≠ .failure)).tail := by
  induction input using wait_induction with
  | ended input hl => rw [(of_line_eq_none hl).1, List.length_nil, nth, (of_line_eq_none hl).2]
  | line input text hl ih =>
    rw [(of_line_eq_some hl).1, List.length_cons, nth, ih, (of_line_eq_some hl).2]

end Wait

/-! ## The log of a wait -/

/-- A wait logs each line that it skips, and then the `failure` that has ended it, if one has. -/
theorem Log.ofArrivals_eq (cause : ReadError) (input : List Arrival) :
    ofArrivals cause input =
      List.replicate (Wait.ofArrivals input).skipped .lineSkipped ++
        if (Wait.ofArrivals input).line = none ∧ .failure ∈ input then [.inputFailed cause]
        else [] := by
  induction input with
  | nil => rfl
  | cons a rest ih =>
    cases a with
    | line | failure => simp [ofArrivals, Wait.ofArrivals]
    | undecodable => simp [ofArrivals, Wait.ofArrivals, ih, List.replicate_succ]
    | event => simp [ofArrivals, Wait.ofArrivals, ih]

/-- `readLine` writes the reports of the events that it logs, and no other message. -/
theorem Console.readLine_eq (c : Console) (cause : ReadError) :
    c.readLine.2 =
      { ((Log.ofArrivals cause c.input).filterMap Log.Reading.report?).foldl printErr c with
        input := (Wait.ofArrivals c.input).rest } := by
  have hr : (Log.ofArrivals cause c.input).filterMap Log.Reading.report? =
      List.replicate (Wait.ofArrivals c.input).skipped lineSkipped := by
    have hl : Log.Reading.lineSkipped.report? = some lineSkipped := rfl
    have hf : (Log.Reading.inputFailed cause).report? = none := rfl
    rw [Log.ofArrivals_eq, List.filterMap_append, List.filterMap_replicate_of_some hl]
    split <;> simp [hf]
  rw [hr, readLine]

end TurtleGraphics
