import Mathlib.Data.List.Induction
import TurtleGraphics.Proofs.Console.Turns
import TurtleGraphics.Proofs.Shell.Lines
import TurtleGraphics.Proofs.Shell.Session
import TurtleGraphics.Proofs.Window.Watched

/-!
# How a session ends

Lines and events of the window come in any order, and the first turn of a `Schedule` whose line
`Quits` or that has events is the last one of the session. Its line is executed in either case.

* `Shell.exists_read`: a round in which nothing waits reads the next turn;
* `Shell.exists_looks`: a session goes on behind turns that bring neither;
* `Shell.run_closes`: how a session ends, for every order of lines and events.
-/

namespace TurtleGraphics

namespace Schedule

/-- The first of `p.turns` whose line `Quits`, or the number of turns if there is none. -/
def firstQuit (p : Schedule) : Nat :=
  p.turns.findIdx fun t => decide (Quits t.line)

/-- The first of `p.turns` with `events`, or the number of turns if there is none. -/
def firstEvent (p : Schedule) : Nat :=
  p.turns.findIdx fun t => !t.events.isEmpty

/-- No turn in front of both `p.firstQuit` and `p.firstEvent` ends a session. -/
theorem goes_on {p : Schedule} {n : Nat} (hq : n ≤ p.firstQuit) (he : n ≤ p.firstEvent) :
    ∀ t ∈ p.turns.take n, ¬ Quits t.line ∧ t.events = [] := by
  intro t ht
  have hq : t ∈ p.turns.take p.firstQuit := List.take_subset_take_left _ hq ht
  have he : t ∈ p.turns.take p.firstEvent := List.take_subset_take_left _ he ht
  have h₁ := List.false_of_mem_take_findIdx hq
  have h₂ := List.false_of_mem_take_findIdx he
  exact ⟨by simpa using h₁, by simpa using h₂⟩

theorem quits_firstQuit {p : Schedule} (h : p.firstQuit < p.turns.length) :
    Quits p.turns[p.firstQuit].line := by
  have hp := List.findIdx_getElem (w := h)
  exact of_decide_eq_true hp

theorem not_quits_of_lt_firstQuit {p : Schedule} {n : Nat} (hn : n < p.turns.length)
    (h : n < p.firstQuit) : ¬ Quits p.turns[n].line := by
  have hp := List.not_of_lt_findIdx h
  simpa using hp

theorem events_firstEvent {p : Schedule} (h : p.firstEvent < p.turns.length) :
    p.turns[p.firstEvent].events ≠ [] := by
  have hp := List.findIdx_getElem (w := h)
  rw [Bool.not_eq_true'] at hp
  exact List.isEmpty_eq_false_iff.1 hp

end Schedule

namespace Shell

/-- `s.run` executes `lines` and ends with `e`, with `unread` left of the input and the events
`waiting` left in the window. -/
structure Closes (s : Shell) (lines : List String) (e : Ending) (unread : List Arrival)
    (waiting : List WindowEvent) : Prop where
  session : ∃ steps, Session s.start steps s.run.1 s.run.2 ∧ steps.map Step.line = lines
  ending : s.run.1 = e
  unread : s.run.2.console.input = unread
  waiting : s.run.2.window.takeEvents.1 = waiting

theorem Closes.of_session {s t : Shell} {steps : List Step} {e : Ending}
    (h : Session s.start steps e t) :
    s.Closes (steps.map Step.line) e t.console.input t.window.takeEvents.1 := by
  have hr : s.run = (e, t) := h.loop_eq
  exact ⟨⟨steps, by rwa [hr], rfl⟩, by rw [hr], by rw [hr], by rw [hr]⟩

variable {s : Shell}

/-! ## One round -/

/-- `ready` ends the session if any event waits in `s.window`. -/
theorem ending_ready (s : Shell) :
    s.ready.1 = if s.window.takeEvents.1 = [] then none else some .windowExited := by
  unfold ready takeExit
  obtain ⟨events, window⟩ := s.window.takeEvents
  cases events with
  | nil => rfl
  | cons e events => cases e; rfl

/-- If no event waits, `ready` and `readLine` read what `Wait.ofArrivals` tells of the input, and
its events wait afterwards. -/
theorem exists_wait (hw : s.window.takeEvents.1 = [])
    (hr : (Wait.ofArrivals s.console.input).events ≠ [] → s.window.IsReachable) :
    ∃ s₁ s₂, s.ready = (none, s₁) ∧
      s₁.readLine = ((Wait.ofArrivals s.console.input).line, s₂) ∧
      s₂.console.input = (Wait.ofArrivals s.console.input).rest ∧
      s₂.window.takeEvents.1 = (Wait.ofArrivals s.console.input).events ∧
      s₂.window.ends = s.window.ends := by
  have hready : s.ready = (none, s.ready.2) := by
    have he := s.ending_ready
    rw [if_pos hw] at he
    rw [← he]
  have hwindow : s.ready.2.readLine.2.window =
      (Wait.ofArrivals s.console.input).events.foldl Window.deliver s.window.takeEvents.2 := by
    rw [window_readLine, input_ready, window_ready]
  refine ⟨s.ready.2, s.ready.2.readLine.2, hready, Prod.ext ?_ rfl, ?_, ?_, ?_⟩
  · rw [← input_ready s]
    rfl
  · rw [← input_ready s]
    rfl
  · rw [hwindow]
    by_cases h : (Wait.ofArrivals s.console.input).events = []
    · rw [h, List.foldl_nil, Window.takeEvents_takeEvents]
    · have hre := (hr h).of_ends (Window.ends_takeEvents s.window)
      rw [Window.takeEvents_foldl_deliver hre, Window.takeEvents_takeEvents, List.nil_append]
  · rw [hwindow, Window.ends_foldl_deliver, Window.ends_takeEvents]

/-- If no event waits, `ready` and `readLine` read the next `turn`, and its events wait
afterwards. -/
theorem exists_read {turn : Turn} {rest : List Arrival} (hw : s.window.takeEvents.1 = [])
    (hi : s.console.input = turn.arrivals ++ rest)
    (hr : turn.events ≠ [] → s.window.IsReachable) :
    ∃ s₁ s₂, s.ready = (none, s₁) ∧ s₁.readLine = (some turn.line, s₂) ∧
      s₂.console.input = rest ∧ s₂.window.takeEvents.1 = turn.events ∧
      s₂.window.ends = s.window.ends := by
  obtain ⟨hline, hrest, hevents⟩ := Wait.ofArrivals_turn turn rest
  rw [← hi] at hline hrest hevents
  have h := exists_wait hw (by rwa [hevents])
  rwa [hline, hrest, hevents] at h

/-- With `¬ Quits line` the session goes on, and `execLine` takes no event. -/
theorem exists_exec {line : String} (h : ¬ Quits line) :
    ∃ s', s.execLine line = (none, s') ∧ s'.console.input = s.console.input ∧
      s'.window.takeEvents.1 = s.window.takeEvents.1 ∧ s'.window.ends = s.window.ends := by
  refine ⟨(s.execLine line).2, Prod.ext (ending_execLine h) rfl, input_execLine s line, ?_, ?_⟩
  · rw [execLine_eq, after, Window.takeEvents_foldl_display]
  · rw [execLine_eq, after, Window.ends_foldl_display]

/-! ## Many rounds -/

/-- A session `Looks` at its window behind the turns `front`, if none of them `Quits` or has
events. -/
theorem exists_looks {front : List Turn} {rest : List Arrival} (hw : s.window.takeEvents.1 = [])
    (hi : s.console.input = front.flatMap Turn.arrivals ++ rest)
    (hf : ∀ t ∈ front, ¬ Quits t.line ∧ t.events = []) :
    ∃ steps t, s.Looks steps t ∧ steps.map Step.line = front.map Turn.line ∧
      t.console.input = rest ∧ t.window.takeEvents.1 = [] ∧ t.window.ends = s.window.ends := by
  induction front using List.reverseRecOn generalizing rest with
  | nil => exact ⟨[], s, .first, rfl, hi, hw, rfl⟩
  | append_singleton front turn ih =>
    obtain ⟨hq, he⟩ := hf turn (by simp)
    have hi' : s.console.input = front.flatMap Turn.arrivals ++ (turn.arrivals ++ rest) := by
      rw [hi, List.flatMap_append, List.flatMap_singleton, List.append_assoc]
    obtain ⟨steps, t, hl, hs, hti, htw, hte⟩ :=
      ih hi' fun t ht => hf t (List.mem_append_left _ ht)
    obtain ⟨s₁, s₂, hready, hread, hi₂, hw₂, he₂⟩ := exists_read htw hti fun h => absurd he h
    obtain ⟨u, hexec, hui, huw, hue⟩ := exists_exec (s := s₂) hq
    refine ⟨steps ++ [⟨turn.line, u⟩], u, .next hl hready hread hexec, ?_, ?_, ?_, ?_⟩
    · rw [List.map_append, List.map_append, hs]
      rfl
    · rw [hui, hi₂]
    · rw [huw, hw₂, he]
    · rw [hue, he₂, hte]

/-- A `turn` whose line `Quits` ends the session, and its events go on waiting. -/
theorem session_of_quits {turn : Turn} {rest : List Arrival} (hw : s.window.takeEvents.1 = [])
    (hi : s.console.input = turn.arrivals ++ rest)
    (hr : turn.events ≠ [] → s.window.IsReachable) (hq : Quits turn.line) :
    ∃ s', Session s [⟨turn.line, s'⟩] .quit s' ∧ s'.console.input = rest ∧
      s'.window.takeEvents.1 = turn.events := by
  obtain ⟨s₁, s₂, hready, hread, hi₂, hw₂, -⟩ := exists_read hw hi hr
  exact ⟨s₂, .last hready hread (execLine_of_quits hq), hi₂, hw₂⟩

/-- A `turn` with events ends the session at the next `ready`, behind its line, unless that
`Quits`. -/
theorem session_of_event {turn : Turn} {rest : List Arrival} (hw : s.window.takeEvents.1 = [])
    (hi : s.console.input = turn.arrivals ++ rest)
    (hr : turn.events ≠ [] → s.window.IsReachable) (hq : ¬ Quits turn.line)
    (he : turn.events ≠ []) :
    ∃ u s', Session s [⟨turn.line, u⟩] .windowExited s' ∧ s'.console.input = rest ∧
      s'.window.takeEvents.1 = [] := by
  obtain ⟨s₁, s₂, hready, hread, hi₂, hw₂, -⟩ := exists_read hw hi hr
  obtain ⟨u, hexec, hui, huw, -⟩ := exists_exec (s := s₂) hq
  have hclosed : u.ready = (some .windowExited, u.ready.2) := by
    have h := u.ending_ready
    rw [if_neg (by rw [huw, hw₂]; exact he)] at h
    rw [← h]
  refine ⟨u, u.ready.2, .next hready hread hexec (.closed hclosed), ?_, ?_⟩
  · rw [input_ready, hui, hi₂]
  · rw [window_ready, Window.takeEvents_takeEvents]

/-- Behind the last turn the session ends with `.inputEnded`, and the events of `p.late` go on
waiting. -/
theorem session_of_late {p : Schedule} (hw : s.window.takeEvents.1 = [])
    (hi : s.console.input = p.late ++ p.lost)
    (hr : p.late.filterMap Arrival.event? ≠ [] → s.window.IsReachable) :
    ∃ s', Session s [] .inputEnded s' ∧ s'.console.input = p.lost.tail ∧
      s'.window.takeEvents.1 = p.late.filterMap Arrival.event? := by
  obtain ⟨hline, hrest, hevents⟩ := Wait.ofArrivals_late p
  rw [← hi] at hline hrest hevents
  obtain ⟨s₁, s₂, hready, hread, hi₂, hw₂, -⟩ := exists_wait hw (by rwa [hevents])
  rw [hline] at hread
  exact ⟨s₂, .ended hready hread, by rw [hi₂, hrest], by rw [hw₂, hevents]⟩

/-! ## The whole session -/

theorem start_keep (s : Shell) :
    s.start.console.input = s.console.input ∧
    s.start.window.takeEvents.1 = s.window.takeEvents.1 ∧
    s.start.window.ends = s.window.ends := by
  have hw (t : Shell) : t.redraw.window.takeEvents.1 = t.window.takeEvents.1 :=
    Window.takeEvents_foldl_display t.window [t.turtle.frame]
  have he (t : Shell) : t.redraw.window.ends = t.window.ends :=
    Window.ends_display t.window t.turtle.frame
  rw [start]
  cases s.console.greeting with
  | none => exact ⟨rfl, hw s, he s⟩
  | some text => exact ⟨rfl, hw (s.print text), he (s.print text)⟩

/-- If an event waits in `s.window`, `s.run` ends before it reads a line. -/
theorem closes_of_waiting (h : s.window.takeEvents.1 ≠ []) :
    s.Closes [] .windowExited s.console.input [] := by
  obtain ⟨hi, hw, -⟩ := s.start_keep
  have hready : s.start.ready = (some .windowExited, s.start.ready.2) := by
    have he := s.start.ending_ready
    rw [hw, if_neg h] at he
    rw [← he]
  have hc := Closes.of_session (.closed hready)
  rwa [List.map_nil, input_ready, hi, window_ready, Window.takeEvents_takeEvents] at hc

/-- If `p.turns[n]` has events, one of them is in the input, so the window `IsReachable`. -/
theorem isReachable_of_events
    (hr : (∃ e, .event e ∈ s.console.input) → s.window.IsReachable) {p : Schedule}
    (hp : p.arrivals = s.console.input) {n : Nat} (hn : n < p.turns.length)
    (h : p.turns[n].events ≠ []) : s.window.IsReachable := by
  obtain ⟨e, he⟩ := List.exists_mem_of_ne_nil _ h
  have hin := Schedule.mem_arrivals_of_mem_events (List.getElem_mem hn) he
  exact hr ⟨e, hp ▸ hin⟩

/-- The shell `t` in which a session looks at its window in front of turn `n`. -/
theorem exists_looks_unread {p : Schedule} (hp : p.arrivals = s.console.input)
    (hw : s.window.takeEvents.1 = []) {n : Nat} (hq : n ≤ p.firstQuit) (he : n ≤ p.firstEvent) :
    ∃ steps t, s.start.Looks steps t ∧ steps.map Step.line = p.lines n ∧
      t.console.input = p.unread n ∧ t.window.takeEvents.1 = [] ∧
      t.window.ends = s.window.ends := by
  obtain ⟨hi, hws, hes⟩ := s.start_keep
  have hin : s.start.console.input = (p.turns.take n).flatMap Turn.arrivals ++ p.unread n := by
    rw [hi, ← hp, Schedule.arrivals, Schedule.unread, Schedule.unread, List.drop_zero,
      ← List.append_assoc, ← List.append_assoc, ← List.flatMap_append, List.take_append_drop]
  obtain ⟨steps, t, hl, hs, hti, htw, hte⟩ :=
    exists_looks (hws.trans hw) hin (Schedule.goes_on hq he)
  exact ⟨steps, t, hl, hs, hti, htw, hte.trans hes⟩

/-- How `s.run` ends. If an event waits from the beginning, no line is read. Otherwise the first
turn whose line `Quits` or that has events is the last one, and the line counts if
`p.firstQuit = p.firstEvent`. If there is none, the lines of all turns are executed, whatever
`p.late` is. After `.windowExited` no event waits. After any other ending the events of the last
turn wait, and close the next session at once. -/
theorem run_closes (s : Shell) (hr : (∃ e, .event e ∈ s.console.input) → s.window.IsReachable) :
    (∃ p : Schedule, p.arrivals = s.console.input) ∧
    (s.window.takeEvents.1 ≠ [] → s.Closes [] .windowExited s.console.input []) ∧
    (s.window.takeEvents.1 = [] → ∀ p : Schedule, p.arrivals = s.console.input →
      (p.firstQuit < p.turns.length → p.firstQuit ≤ p.firstEvent →
        s.Closes (p.lines (p.firstQuit + 1)) .quit (p.unread (p.firstQuit + 1))
          (p.eventsAt p.firstQuit)) ∧
      (p.firstEvent < p.firstQuit →
        s.Closes (p.lines (p.firstEvent + 1)) .windowExited (p.unread (p.firstEvent + 1)) []) ∧
      (p.firstQuit = p.turns.length → p.firstEvent = p.turns.length →
        s.Closes (p.turns.map Turn.line) .inputEnded p.lost.tail
          (p.late.filterMap Arrival.event?))) ∧
    ∀ console, s.run.2.window.takeEvents.1 ≠ [] →
      Closes { s.run.2 with console } [] .windowExited console.input [] := by
  refine ⟨exists_schedule _, closes_of_waiting, fun hw p hp => ⟨fun hq he => ?_, fun he => ?_,
    fun hq he => ?_⟩, fun console h => closes_of_waiting h⟩
  · obtain ⟨steps, t, hl, hs, hti, htw, hte⟩ := exists_looks_unread hp hw (Nat.le_refl _) he
    have hre (h : p.turns[p.firstQuit].events ≠ []) : t.window.IsReachable :=
      (isReachable_of_events hr hp hq h).of_ends hte
    rw [Schedule.unread_eq hq] at hti
    obtain ⟨s', hs', hi', hw'⟩ := session_of_quits htw hti hre (Schedule.quits_firstQuit hq)
    have hc := Closes.of_session (hs'.behind hl)
    rwa [List.map_append, List.map_singleton, hs, hi', hw', ← Schedule.eventsAt_eq hq,
      ← Schedule.lines_succ hq] at hc
  · have hlt : p.firstEvent < p.turns.length := Nat.lt_of_lt_of_le he List.findIdx_le_length
    obtain ⟨steps, t, hl, hs, hti, htw, hte⟩ :=
      exists_looks_unread hp hw (Nat.le_of_lt he) (Nat.le_refl _)
    have hre (h : p.turns[p.firstEvent].events ≠ []) : t.window.IsReachable :=
      (isReachable_of_events hr hp hlt h).of_ends hte
    rw [Schedule.unread_eq hlt] at hti
    obtain ⟨u, s', hs', hi', hw'⟩ := session_of_event htw hti hre
      (Schedule.not_quits_of_lt_firstQuit hlt he) (Schedule.events_firstEvent hlt)
    have hc := Closes.of_session (hs'.behind hl)
    rwa [List.map_append, List.map_singleton, hs, hi', hw', ← Schedule.lines_succ hlt] at hc
  · obtain ⟨steps, t, hl, hs, hti, htw, hte⟩ :=
      exists_looks_unread hp hw (Nat.le_of_eq hq.symm) (Nat.le_of_eq he.symm)
    have hre (h : p.late.filterMap Arrival.event? ≠ []) : t.window.IsReachable := by
      obtain ⟨e, hmem⟩ := List.exists_mem_of_ne_nil _ h
      exact (hr ⟨e, hp ▸ Schedule.mem_arrivals_of_mem_late hmem⟩).of_ends hte
    rw [Schedule.unread_length] at hti
    obtain ⟨s', hs', hi', hw'⟩ := session_of_late htw hti hre
    have hc := Closes.of_session (hs'.behind hl)
    rwa [List.append_nil, hs, hi', hw', Schedule.lines_length] at hc

/-- Two events arrive in the turn of `/quit`: the session ends with `.quit`, and they go on
waiting. -/
theorem run_closes_of_both :
    let s : Shell :=
      { window := .wrapped (.channel {})
        console := { input := [.line "fw 1", .event .exited, .undecodable, .event .exited,
          .line "/quit", .line "pu"] } }
    ((∃ e, .event e ∈ s.console.input) → s.window.IsReachable) ∧
    s.Closes ["fw 1", "/quit"] .quit [.line "pu"] [.exited, .exited] := by
  intro s
  have hr (_ : ∃ e, .event e ∈ s.console.input) : s.window.IsReachable := ⟨_, rfl, rfl, rfl⟩
  let p : Schedule :=
    { turns := [⟨[], "fw 1", by decide⟩,
        ⟨[.event .exited, .undecodable, .event .exited], "/quit", by decide⟩,
        ⟨[], "pu", by decide⟩] }
  have hq : p.firstQuit = 1 := by decide +kernel
  have he : p.firstEvent = 1 := by decide
  have h := ((run_closes s hr).2.2.1 rfl p rfl).1 (by rw [hq]; decide)
    (Nat.le_of_eq (hq.trans he.symm))
  rw [hq] at h
  exact ⟨hr, h⟩

end Shell

end TurtleGraphics
