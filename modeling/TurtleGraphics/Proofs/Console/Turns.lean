import TurtleGraphics.Console

/-!
# An input in turns

All that arrives at a console falls into turns: what comes while a line is awaited, and the line. A
`Schedule` is a whole input in this form, with what comes behind the last line. Every input has one
(`exists_schedule`), and a wait takes exactly one turn of it (`ofArrivals_turn`).
-/

namespace TurtleGraphics

namespace Arrival

/-- It does not end a wait: it is neither a `line` nor a `failure`. -/
def passes : Arrival → Bool
  | .undecodable | .event _ => true
  | .line _ | .failure => false

def event? : Arrival → Option WindowEvent
  | .event e => some e
  | _ => none

/-- The text of a `line`. -/
def line? : Arrival → Option String
  | .line text => some text
  | _ => none

theorem filterMap_line? (lines : List String) :
    (lines.map Arrival.line).filterMap line? = lines := by
  rw [List.filterMap_map]
  exact List.filterMap_some

end Arrival

/-- What arrives before a line, and the `line`. -/
structure Turn where
  before : List Arrival
  line : String
  passing : ∀ a ∈ before, a.passes = true

namespace Turn

def arrivals (t : Turn) : List Arrival :=
  t.before ++ [.line t.line]

/-- The events that arrive before `t.line`. -/
def events (t : Turn) : List WindowEvent :=
  t.before.filterMap Arrival.event?

end Turn

/-- An input with its lines in `turns`. What is in `late` arrives behind the last line, and then the
input ends or reading fails. -/
structure Schedule where
  turns : List Turn
  late : List Arrival := []
  /-- What begins with a `failure` and is never read. -/
  lost : List Arrival := []
  passing : ∀ a ∈ late, a.passes = true := by decide
  failing : ∀ a ∈ lost.head?, a = .failure := by decide

namespace Schedule

/-- The input from turn `n` on, counted from zero. -/
def unread (p : Schedule) (n : Nat) : List Arrival :=
  (p.turns.drop n).flatMap Turn.arrivals ++ p.late ++ p.lost

def arrivals (p : Schedule) : List Arrival :=
  p.unread 0

/-- The lines of the first `n` turns. -/
def lines (p : Schedule) (n : Nat) : List String :=
  (p.turns.take n).map Turn.line

/-- The events that arrive in turn `n`. -/
def eventsAt (p : Schedule) (n : Nat) : List WindowEvent :=
  (p.turns[n]?.map Turn.events).getD []

theorem unread_eq {p : Schedule} {n : Nat} (h : n < p.turns.length) :
    p.unread n = p.turns[n].arrivals ++ p.unread (n + 1) := by
  rw [unread, unread, List.drop_eq_getElem_cons h, List.flatMap_cons, List.append_assoc,
    List.append_assoc, List.append_assoc]

theorem unread_length (p : Schedule) : p.unread p.turns.length = p.late ++ p.lost := by
  rw [unread, List.drop_length, List.flatMap_nil, List.nil_append]

theorem lines_succ {p : Schedule} {n : Nat} (h : n < p.turns.length) :
    p.lines (n + 1) = p.lines n ++ [p.turns[n].line] := by
  rw [lines, lines, List.take_add_one, List.getElem?_eq_getElem h, List.map_append]
  rfl

theorem lines_length (p : Schedule) : p.lines p.turns.length = p.turns.map Turn.line := by
  rw [lines, List.take_length]

theorem eventsAt_eq {p : Schedule} {n : Nat} (h : n < p.turns.length) :
    p.eventsAt n = p.turns[n].events := by
  rw [eventsAt, List.getElem?_eq_getElem h, Option.map_some, Option.getD_some]

theorem mem_arrivals_of_mem_events {p : Schedule} {t : Turn} (ht : t ∈ p.turns)
    {e : WindowEvent} (he : e ∈ t.events) : Arrival.event e ∈ p.arrivals := by
  have hb : Arrival.event e ∈ t.arrivals := by
    obtain ⟨a, ha, hae⟩ := List.mem_filterMap.1 he
    cases a <;> cases hae
    exact List.mem_append_left _ ha
  have hf : Arrival.event e ∈ p.turns.flatMap Turn.arrivals := List.mem_flatMap.2 ⟨t, ht, hb⟩
  exact List.mem_append_left _ (List.mem_append_left _ hf)

theorem mem_arrivals_of_mem_late {p : Schedule} {e : WindowEvent}
    (he : e ∈ p.late.filterMap Arrival.event?) : Arrival.event e ∈ p.arrivals := by
  obtain ⟨a, ha, hae⟩ := List.mem_filterMap.1 he
  cases a <;> cases hae
  exact List.mem_append_left _ (List.mem_append_right _ ha)

end Schedule

/-- Every input is `p.arrivals` for a schedule `p`. -/
theorem exists_schedule (input : List Arrival) : ∃ p : Schedule, p.arrivals = input := by
  induction input with
  | nil => exact ⟨{ turns := [] }, rfl⟩
  | cons a input ih =>
    obtain ⟨p, rfl⟩ := ih
    cases ha : a.passes with
    | true =>
      obtain ⟨turns, late, lost, hlate, hlost⟩ := p
      cases turns with
      | nil =>
        have hl : ∀ b ∈ a :: late, b.passes = true := List.forall_mem_cons.2 ⟨ha, hlate⟩
        exact ⟨{ turns := [], late := a :: late, lost, passing := hl, failing := hlost }, rfl⟩
      | cons t turns =>
        have ht : ∀ b ∈ a :: t.before, b.passes = true := List.forall_mem_cons.2 ⟨ha, t.passing⟩
        exact ⟨{ turns := ⟨a :: t.before, t.line, ht⟩ :: turns, late, lost, passing := hlate
                 failing := hlost }, rfl⟩
    | false =>
      cases a with
      | undecodable => cases ha
      | event => cases ha
      | line text =>
        exact ⟨{ p with turns := ⟨[], text, by simp⟩ :: p.turns }, rfl⟩
      | failure =>
        exact ⟨{ turns := [], lost := .failure :: p.arrivals, failing := by simp }, rfl⟩

namespace Wait

/-- What `passes` brings its events to a wait and nothing else. -/
theorem ofArrivals_append {before : List Arrival} (h : ∀ a ∈ before, a.passes = true)
    (rest : List Arrival) :
    (ofArrivals (before ++ rest)).line = (ofArrivals rest).line ∧
    (ofArrivals (before ++ rest)).rest = (ofArrivals rest).rest ∧
    (ofArrivals (before ++ rest)).events =
      before.filterMap Arrival.event? ++ (ofArrivals rest).events := by
  induction before with
  | nil => exact ⟨rfl, rfl, rfl⟩
  | cons a before ih =>
    obtain ⟨ha, hb⟩ := List.forall_mem_cons.1 h
    obtain ⟨hl, hr, he⟩ := ih hb
    cases a with
    | line => cases ha
    | failure => cases ha
    | undecodable => exact ⟨hl, hr, he⟩
    | event e => exact ⟨hl, hr, congrArg (e :: ·) he⟩

/-- A wait takes the `line` and the `events` of the next turn. -/
theorem ofArrivals_turn (t : Turn) (rest : List Arrival) :
    (ofArrivals (t.arrivals ++ rest)).line = some t.line ∧
    (ofArrivals (t.arrivals ++ rest)).rest = rest ∧
    (ofArrivals (t.arrivals ++ rest)).events = t.events := by
  obtain ⟨hl, hr, he⟩ := ofArrivals_append t.passing (.line t.line :: rest)
  rw [Turn.arrivals, List.append_assoc, List.singleton_append]
  exact ⟨hl, hr, he.trans (List.append_nil _)⟩

/-- A wait behind the last turn brings no line. -/
theorem ofArrivals_late (p : Schedule) :
    (ofArrivals (p.late ++ p.lost)).line = none ∧
    (ofArrivals (p.late ++ p.lost)).rest = p.lost.tail ∧
    (ofArrivals (p.late ++ p.lost)).events = p.late.filterMap Arrival.event? := by
  obtain ⟨hl, hr, he⟩ := ofArrivals_append p.passing p.lost
  rw [hl, hr, he]
  have hf := p.failing
  cases hp : p.lost with
  | nil => exact ⟨rfl, rfl, List.append_nil _⟩
  | cons a lost =>
    obtain rfl : a = .failure := hf a (by rw [hp]; rfl)
    exact ⟨rfl, rfl, List.append_nil _⟩

end Wait

end TurtleGraphics
