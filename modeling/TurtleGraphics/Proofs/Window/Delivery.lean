import TurtleGraphics.Proofs.Link.Conservation
import TurtleGraphics.Proofs.Window.Watched

/-!
# What a window delivers

A window with a channel is called in any order, by the program and by those who look at it, who send
events and may leave. Each call acts on one of the two links at most (`Window.perform_channel`), so
the answers to all calls are what goes through the two links (`Window.answers_channel`), and the law
of links gives what a window owes to its callers:

* `Window.arrived_of_channel`, `Window.looked_of_channel`: what is painted arrives, whenever it is
  taken;
* `Window.sent_of_channel`, `Window.first_of_channel`: each event is taken once, by the first call
  that asks for events behind it;
* `Window.delivers_every_call`: all of this, for a plain window and for a wrapped one.
-/

namespace TurtleGraphics.Window

open Link (Action)

/-- A call of the program (`issue`, `display`, `takeEvents`), or of those who look at the window. -/
inductive Call where
  | issue (paint : Paint)
  | display (frame : Frame)
  | takeEvents
  | deliver (event : WindowEvent)
  | closeEvents
  | takePaints
  | closePaints

/-- What a call gives: the instructions of `.takePaints`, or the events of `.takeEvents`. -/
structure Answer where
  paints : List Paint := []
  events : List WindowEvent := []

def perform (w : Window) : Call → Answer × Window
  | .issue p => ({}, w.issue p)
  | .display f => ({}, w.display f)
  | .takeEvents =>
    let (events, w) := w.takeEvents
    ({ events }, w)
  | .deliver e => ({}, w.deliver e)
  | .closeEvents => ({}, w.closeEvents)
  | .takePaints =>
    let (paints, w) := w.takePaints
    ({ paints }, w)
  | .closePaints => ({}, w.closePaints)

/-- The window behind `calls`. -/
def after (w : Window) (calls : List Call) : Window :=
  calls.foldl (fun w call => (w.perform call).2) w

/-- The `Answer` to each call. -/
def answers (w : Window) : List Call → List Answer
  | [] => []
  | call :: calls => (w.perform call).1 :: (w.perform call).2.answers calls

namespace Call

/-- The instructions that a call issues. -/
def paints : Call → List Paint
  | .issue p => [p]
  | .display f => .clear f.background :: f.primitives.map Primitive.paint ++ [.present]
  | _ => []

/-- The events that calls deliver, up to `.closeEvents`. -/
def events : List Call → List WindowEvent
  | [] => []
  | .closeEvents :: _ => []
  | .deliver e :: calls => e :: events calls
  | _ :: calls => events calls

/-- What a call does to `Channel.paints`. -/
def onPaints : Call → List (Action Paint)
  | .issue p => [.send p]
  | .display f => f.paints.map .send
  | .takePaints => [.takeAll]
  | .closePaints => [.closeReceiver]
  | .takeEvents | .deliver _ | .closeEvents => []

/-- What a call does to `Channel.events`. -/
def onEvents : Call → List (Action WindowEvent)
  | .deliver e => [.send e]
  | .takeEvents => [.takeAll]
  | .closeEvents => [.closeSender]
  | .issue _ | .display _ | .takePaints | .closePaints => []

end Call

/-- Under `calls`, the window `w` loses, doubles and reorders nothing. -/
structure Delivers (w : Window) (calls : List Call) : Prop where
  /-- Every call is answered, also behind `.closePaints` and `.closeEvents`. -/
  answered : (w.answers calls).length = calls.length
  /-- At every moment in front of `.closePaints`, the instructions that were taken and those that
  wait are all that were issued, in order. -/
  arrived : ∀ front back, calls = front ++ back → .closePaints ∉ front →
    (w.answers front).flatMap Answer.paints ++ (w.after front).takePaints.1 =
      front.flatMap Call.paints
  /-- A `.takePaints` gives the instructions that were issued since the one before. -/
  looked : ∀ front mid back, calls = front ++ mid ++ .takePaints :: back →
    .closePaints ∉ front ++ mid → (∀ call ∈ front.getLast?, call = .takePaints) →
    .takePaints ∉ mid →
      (w.answers calls)[(front ++ mid).length]? = some { paints := mid.flatMap Call.paints }
  /-- Behind `.closePaints` no instruction arrives any more. -/
  gone : ∀ front back, calls = front ++ back → .closePaints ∈ front →
    (w.answers calls).flatMap Answer.paints = (w.answers front).flatMap Answer.paints ∧
      (w.after calls).takePaints.1 = []
  /-- Together, the `.takeEvents` give what was delivered before the last of them. -/
  sent : ∀ front back, calls = front ++ .takeEvents :: back → .takeEvents ∉ back →
    (w.answers calls).flatMap Answer.events = Call.events front
  /-- A `.takeEvents` gives what was delivered since the one before. -/
  first : ∀ front mid back, calls = front ++ mid ++ .takeEvents :: back →
    (∀ call ∈ front.getLast?, call = .takeEvents) → .takeEvents ∉ mid →
      ∃ events, Call.events (front ++ mid) = Call.events front ++ events ∧
        (w.answers calls)[(front ++ mid).length]? = some { events }

/-! ## Calls and links -/

theorem channel?_foldl_issue (w : Window) (ps : List Paint) :
    (ps.foldl issue w).channel? =
      w.channel?.map fun c => { c with paints := ps.foldl Link.send c.paints } := by
  induction ps generalizing w with
  | nil => exact Option.map_id'.symm
  | cons p ps ih =>
    rw [List.foldl_cons, ih, issue, channel?_mapChannel, Option.map_map]
    rfl

section

variable {w : Window} {c : Channel}

/-- `perform` acts on each link by `onPaints` and `onEvents`, and gives what these take. -/
theorem perform_channel (h : w.channel? = some c) (call : Call) :
    (w.perform call).1 =
      { paints := c.paints.taken call.onPaints, events := c.events.taken call.onEvents } ∧
    (w.perform call).2.channel? =
      some ⟨c.paints.after call.onPaints, c.events.after call.onEvents⟩ := by
  have changed (f : Channel → Channel) : (w.mapChannel f).channel? = some (f c) := by
    rw [channel?_mapChannel, h, Option.map_some]
  cases call with
  | issue p => exact ⟨rfl, changed _⟩
  | deliver e => exact ⟨rfl, changed _⟩
  | closeEvents => exact ⟨rfl, changed _⟩
  | closePaints => exact ⟨rfl, changed _⟩
  | display f =>
    have ht : c.paints.taken (Call.display f).onPaints = [] := Link.taken_map_send _ _
    have ha : c.paints.after (Call.display f).onPaints = _ := Link.after_map_send _ _
    rw [ht, ha, perform, display, channel?_foldl_issue, h]
    exact ⟨rfl, rfl⟩
  | takeEvents =>
    rw [perform, takeEvents, h]
    exact ⟨congrArg (fun events => ({ events } : Answer)) (List.append_nil _).symm, changed _⟩
  | takePaints =>
    rw [perform, takePaints, h]
    exact ⟨congrArg (fun paints => ({ paints } : Answer)) (List.append_nil _).symm, changed _⟩

/-- The answers to `calls` are what goes through the two links. -/
theorem answers_channel (h : w.channel? = some c) (calls : List Call) :
    (w.answers calls).flatMap Answer.paints = c.paints.taken (calls.flatMap Call.onPaints) ∧
    (w.answers calls).flatMap Answer.events = c.events.taken (calls.flatMap Call.onEvents) ∧
    (w.after calls).channel? =
      some ⟨c.paints.after (calls.flatMap Call.onPaints),
        c.events.after (calls.flatMap Call.onEvents)⟩ := by
  induction calls generalizing w c with
  | nil => exact ⟨rfl, rfl, h⟩
  | cons call calls ih =>
    obtain ⟨hanswer, hnext⟩ := perform_channel h call
    obtain ⟨hp, he, hc⟩ := ih hnext
    rw [answers, List.flatMap_cons, List.flatMap_cons, List.flatMap_cons, List.flatMap_cons, hp,
      he, hanswer, Link.taken_append, Link.taken_append, Link.after_append, Link.after_append]
    exact ⟨rfl, rfl, hc⟩

end

/-! ## What the calls send -/

/-- No call closes the sender of `Channel.paints`, so all that is issued counts as `Link.sent`. -/
theorem sent_onPaints (calls : List Call) :
    Link.sent (calls.flatMap Call.onPaints) = calls.flatMap Call.paints := by
  induction calls with
  | nil => rfl
  | cons call calls ih =>
    rw [List.flatMap_cons, List.flatMap_cons]
    cases call with
    | issue p => exact congrArg (p :: ·) ih
    | display f =>
      have hs := Link.sent_map_send_append f.paints (calls.flatMap Call.onPaints)
      rw [ih] at hs
      exact hs
    | takeEvents | deliver | closeEvents | takePaints | closePaints => exact ih

theorem sent_onEvents (calls : List Call) :
    Link.sent (calls.flatMap Call.onEvents) = Call.events calls := by
  induction calls with
  | nil => rfl
  | cons call calls ih =>
    rw [List.flatMap_cons]
    cases call with
    | deliver e => exact congrArg (e :: ·) ih
    | closeEvents => rfl
    | issue | display | takeEvents | takePaints | closePaints => exact ih

theorem mem_onPaints_iff {calls : List Call} :
    (.takeAll ∈ calls.flatMap Call.onPaints ↔ .takePaints ∈ calls) ∧
    (.closeReceiver ∈ calls.flatMap Call.onPaints ↔ .closePaints ∈ calls) := by
  induction calls with
  | nil => simp
  | cons call calls ih => cases call <;> simp [Call.onPaints, ih]

theorem mem_onEvents_iff {calls : List Call} :
    (.takeAll ∈ calls.flatMap Call.onEvents ↔ .takeEvents ∈ calls) ∧
    .closeReceiver ∉ calls.flatMap Call.onEvents := by
  induction calls with
  | nil => simp
  | cons call calls ih => cases call <;> simp [Call.onEvents, ih]

/-! ## Answers one after the other -/

theorem answers_append (w : Window) (front back : List Call) :
    w.answers (front ++ back) = w.answers front ++ (w.after front).answers back := by
  induction front generalizing w with
  | nil => rfl
  | cons call front ih => exact congrArg ((w.perform call).1 :: ·) (ih (w.perform call).2)

theorem length_answers (w : Window) (calls : List Call) :
    (w.answers calls).length = calls.length := by
  induction calls generalizing w with
  | nil => rfl
  | cons call calls ih => exact congrArg (· + 1) (ih (w.perform call).2)

theorem getElem?_answers (w : Window) (front : List Call) (call : Call) (back : List Call) :
    (w.answers (front ++ call :: back))[front.length]? =
      some ((w.after front).perform call).1 := by
  rw [answers_append, ← length_answers w front, List.getElem?_append_right (Nat.le_refl _),
    Nat.sub_self]
  rfl

/-- Nothing is `pending` if the last action is `.takeAll`. -/
theorem pending_of_getLast? {α : Type} {on : Call → List (Action α)} {calls : List Call}
    (h : ∀ call ∈ calls.getLast?, on call = [.takeAll]) :
    (({} : Link α).after (calls.flatMap on)).pending = [] := by
  rcases List.eq_nil_or_concat calls with rfl | ⟨front, call, rfl⟩
  · rfl
  · have hc : on call = [.takeAll] := h call (by simp)
    rw [List.concat_eq_append, List.flatMap_append, List.flatMap_singleton, hc]
    exact Link.pending_after_takeAll _ _

section

variable {w : Window} (hw : w.channel? = some {}) {front mid back : List Call}

include hw

theorem takePaints_after (calls : List Call) :
    (w.after calls).takePaints.1 =
      (({} : Link Paint).after (calls.flatMap Call.onPaints)).pending := by
  rw [takePaints, (answers_channel hw calls).2.2]

theorem takeEvents_after (calls : List Call) :
    (w.after calls).takeEvents.1 =
      (({} : Link WindowEvent).after (calls.flatMap Call.onEvents)).pending := by
  rw [takeEvents, (answers_channel hw calls).2.2]

theorem arrived_of_channel {calls : List Call} (h : .closePaints ∉ calls) :
    (w.answers calls).flatMap Answer.paints ++ (w.after calls).takePaints.1 =
      calls.flatMap Call.paints := by
  have hc := mt mem_onPaints_iff.2.1 h
  rw [(answers_channel hw calls).1, takePaints_after hw, Link.taken_append_pending rfl hc,
    sent_onPaints]
  rfl

theorem looked_of_channel (h : .closePaints ∉ front ++ mid)
    (hf : ∀ call ∈ front.getLast?, call = .takePaints) (hm : .takePaints ∉ mid) :
    (w.after (front ++ mid)).takePaints.1 = mid.flatMap Call.paints := by
  have hp : (({} : Link Paint).after (front.flatMap Call.onPaints)).pending = [] :=
    pending_of_getLast? fun call hc => by rw [hf call hc]; rfl
  have hc := mt mem_onPaints_iff.2.1 h
  rw [List.flatMap_append] at hc
  have hs := Link.sent_append rfl rfl rfl hc hp (mt mem_onPaints_iff.1.1 hm)
  rw [← List.flatMap_append, ← takePaints_after hw, sent_onPaints, sent_onPaints,
    List.flatMap_append] at hs
  exact (List.append_cancel_left hs).symm

theorem gone_of_channel (h : .closePaints ∈ front) (back : List Call) :
    (w.answers (front ++ back)).flatMap Answer.paints = (w.answers front).flatMap Answer.paints ∧
      (w.after (front ++ back)).takePaints.1 = [] := by
  have hc := mem_onPaints_iff.2.2 h
  rw [takePaints_after hw, (answers_channel hw _).1, (answers_channel hw _).1,
    List.flatMap_append]
  exact Link.taken_of_mem_closeReceiver hc {} _

theorem sent_of_channel (h : .takeEvents ∉ back) :
    (w.answers (front ++ .takeEvents :: back)).flatMap Answer.events = Call.events front := by
  have hb := Link.taken_of_not_mem_takeAll (mt mem_onEvents_iff.1.1 h)
  have hc : .closeReceiver ∉ front.flatMap Call.onEvents := mem_onEvents_iff.2
  have hs := Link.taken_append_pending (l := ({} : Link WindowEvent)) rfl hc
  have ht (l : Link WindowEvent) : l.taken Call.takeEvents.onEvents = l.pending :=
    List.append_nil _
  rw [sent_onEvents] at hs
  rw [(answers_channel hw _).2.1, List.flatMap_append, List.flatMap_cons, Link.taken_append,
    Link.taken_append, hb, List.append_nil, ht]
  exact hs

theorem first_of_channel (hf : ∀ call ∈ front.getLast?, call = .takeEvents)
    (hm : .takeEvents ∉ mid) :
    Call.events (front ++ mid) = Call.events front ++ (w.after (front ++ mid)).takeEvents.1 := by
  have hp : (({} : Link WindowEvent).after (front.flatMap Call.onEvents)).pending = [] :=
    pending_of_getLast? fun call hc => by rw [hf call hc]; rfl
  have hc : .closeReceiver ∉ (front ++ mid).flatMap Call.onEvents := mem_onEvents_iff.2
  rw [List.flatMap_append] at hc
  have hs := Link.sent_append rfl rfl rfl hc hp (mt mem_onEvents_iff.1.1 hm)
  rwa [← List.flatMap_append, ← takeEvents_after hw, sent_onEvents, sent_onEvents] at hs

theorem delivers_of_channel (calls : List Call) : w.Delivers calls where
  answered := w.length_answers calls
  arrived _ _ _ h := arrived_of_channel hw h
  looked front mid back hc h hf hm := by
    rw [hc, getElem?_answers, ← looked_of_channel hw h hf hm]
    rfl
  gone front back hc h := hc ▸ gone_of_channel hw h back
  sent front back hc h := hc ▸ sent_of_channel hw h
  first front mid back hc hf hm := by
    refine ⟨_, first_of_channel hw hf hm, ?_⟩
    rw [hc, getElem?_answers]
    rfl

end

/-! ## Wrapped windows -/

theorem perform_wrapped (w : Window) (call : Call) :
    (wrapped w).perform call = ((w.perform call).1, .wrapped (w.perform call).2) := by
  cases call with
  | issue | deliver | closeEvents | closePaints => rfl
  | display f => exact congrArg (({} : Answer), ·) (foldl_display_wrapped w [f])
  | takeEvents => rw [perform, takeEvents_wrapped]; rfl
  | takePaints => rw [perform, takePaints_wrapped]; rfl

theorem answers_wrapped (w : Window) (calls : List Call) :
    (wrapped w).answers calls = w.answers calls := by
  induction calls generalizing w with
  | nil => rfl
  | cons call calls ih => rw [answers, perform_wrapped, ih, answers]

/-- A `channel` window `Delivers` under any `calls`, in any order and with either end closed, and a
`wrapped` window gives the same answers. -/
theorem delivers_every_call (calls : List Call) :
    (channel {}).Delivers calls ∧ (wrapped (channel {})).Delivers calls ∧
      ∀ w : Window, (wrapped w).answers calls = w.answers calls :=
  ⟨delivers_of_channel rfl calls, delivers_of_channel rfl calls, fun w => answers_wrapped w calls⟩

example : ((channel {}).answers
    [.deliver .exited, .closeEvents, .deliver .exited, .takeEvents]).flatMap Answer.events =
      [.exited] := rfl

end TurtleGraphics.Window
