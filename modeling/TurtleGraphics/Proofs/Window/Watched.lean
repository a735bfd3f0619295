import TurtleGraphics.Window

/-!
# Windows that are watched

The two links of a `Channel` are independent: what is displayed keeps the events that wait, and
events keep the instructions. Only `closePaints` and `closeEvents` close an end of a link
(`Window.ends`), and over an open link nothing is lost:

* `Window.takePaints_foldl_display`: frames are passed on in order;
* `Window.takeEvents_foldl_deliver`: events wait in the order in which they were sent.

To take where nothing waits changes nothing (`Window.takeEvents_of_silent`,
`Window.takePaints_of_blank`), and a wrapped window does what the one inside does
(`Window.foldl_display_wrapped` and the lemmas beside it).
-/

namespace TurtleGraphics

/-- Which ends of the two links of a `Channel` are open. -/
structure Channel.Ends where
  paintsSender : Bool
  paintsReceiver : Bool
  eventsSender : Bool
  eventsReceiver : Bool

def Channel.ends (c : Channel) : Channel.Ends :=
  ⟨c.paints.senderOpen, c.paints.receiverOpen, c.events.senderOpen, c.events.receiverOpen⟩

theorem Link.emptied_send {α : Type} (l : Link α) (a : α) : (l.send a).emptied = l.emptied := by
  unfold send
  split <;> rfl

theorem Link.emptied_foldl_send {α : Type} (l : Link α) (sent : List α) :
    (sent.foldl send l).emptied = l.emptied := by
  induction sent generalizing l with
  | nil => rfl
  | cons a sent ih => exact (ih (l.send a)).trans (l.emptied_send a)

theorem Link.foldl_send_of_receiver_closed {α : Type} {l : Link α} (h : l.receiverOpen = false)
    (sent : List α) : sent.foldl send l = l := by
  induction sent with
  | nil => rfl
  | cons a sent ih => rw [List.foldl_cons, send_of_receiver_closed l a h, ih]

namespace Window

/-- The ends of the `Channel` of `w`, if it has one. -/
def ends (w : Window) : Option Channel.Ends :=
  w.channel?.map Channel.ends

/-- `w` has a `Channel`, and both ends of its instructions are open. -/
def IsWatched (w : Window) : Prop :=
  ∃ e, w.ends = some e ∧ e.paintsSender = true ∧ e.paintsReceiver = true

/-- `w` has a `Channel`, and both ends of its events are open. -/
def IsReachable (w : Window) : Prop :=
  ∃ e, w.ends = some e ∧ e.eventsSender = true ∧ e.eventsReceiver = true

variable {w : Window}

theorem mapChannel_eq_self {f : Channel → Channel} (hf : ∀ c, w.channel? = some c → f c = c) :
    w.mapChannel f = w := by
  induction w with
  | void => rfl
  | channel c => exact congrArg channel (hf c rfl)
  | wrapped w ih => exact congrArg wrapped (ih hf)

/-- What `issue` keeps of a window is kept by `display`, too. -/
theorem foldl_display_of_issue {α : Type} (g : Window → α) (hg : ∀ w p, g (w.issue p) = g w)
    (w : Window) (fs : List Frame) : g (fs.foldl display w) = g w := by
  have picture (v : Window) (ps : List Paint) : g (ps.foldl issue v) = g v := by
    induction ps generalizing v with
    | nil => rfl
    | cons p ps ih => exact (ih (v.issue p)).trans (hg v p)
  induction fs generalizing w with
  | nil => rfl
  | cons f fs ih => exact (ih (w.display f)).trans (picture w f.paints)

/-! ## Wrapped windows -/

theorem takeEvents_wrapped (w : Window) :
    (wrapped w).takeEvents = (w.takeEvents.1, .wrapped w.takeEvents.2) := by
  have hc : (wrapped w).channel? = w.channel? := rfl
  rw [takeEvents, takeEvents, hc]
  cases w.channel? <;> rfl

theorem takePaints_wrapped (w : Window) :
    (wrapped w).takePaints = (w.takePaints.1, .wrapped w.takePaints.2) := by
  have hc : (wrapped w).channel? = w.channel? := rfl
  rw [takePaints, takePaints, hc]
  cases w.channel? <;> rfl

theorem foldl_deliver_wrapped (w : Window) (es : List WindowEvent) :
    es.foldl deliver (wrapped w) = .wrapped (es.foldl deliver w) := by
  induction es generalizing w with
  | nil => rfl
  | cons e es ih => exact ih (w.deliver e)

theorem foldl_display_wrapped (w : Window) (fs : List Frame) :
    fs.foldl display (wrapped w) = .wrapped (fs.foldl display w) := by
  have picture (v : Window) (ps : List Paint) :
      ps.foldl issue (wrapped v) = .wrapped (ps.foldl issue v) := by
    induction ps generalizing v with
    | nil => rfl
    | cons p ps ih => exact ih (v.issue p)
  induction fs generalizing w with
  | nil => rfl
  | cons f fs ih => rw [List.foldl_cons, display, picture, ih, List.foldl_cons, display]

/-! ## The ends of the links -/

theorem ends_mapChannel (w : Window) {f : Channel → Channel} (hf : ∀ c, (f c).ends = c.ends) :
    (w.mapChannel f).ends = w.ends := by
  rw [ends, ends, channel?_mapChannel, Option.map_map]
  exact congrArg (Option.map · w.channel?) (funext hf)

@[simp] theorem ends_issue (w : Window) (p : Paint) : (w.issue p).ends = w.ends := by
  refine ends_mapChannel w fun c => ?_
  simp only [Channel.ends, Link.senderOpen_send, Link.receiverOpen_send]

@[simp] theorem ends_deliver (w : Window) (e : WindowEvent) : (w.deliver e).ends = w.ends := by
  refine ends_mapChannel w fun c => ?_
  simp only [Channel.ends, Link.senderOpen_send, Link.receiverOpen_send]

@[simp] theorem ends_takeEvents (w : Window) : w.takeEvents.2.ends = w.ends := by
  rw [takeEvents]
  split
  · rfl
  · exact ends_mapChannel w fun _ => rfl

@[simp] theorem ends_foldl_display (w : Window) (fs : List Frame) :
    (fs.foldl display w).ends = w.ends :=
  foldl_display_of_issue ends ends_issue w fs

@[simp] theorem ends_display (w : Window) (f : Frame) : (w.display f).ends = w.ends :=
  ends_foldl_display w [f]

@[simp] theorem ends_foldl_deliver (w : Window) (es : List WindowEvent) :
    (es.foldl deliver w).ends = w.ends := by
  induction es generalizing w with
  | nil => rfl
  | cons e es ih => rw [List.foldl_cons, ih, ends_deliver]

theorem IsWatched.of_ends {v : Window} (h : w.IsWatched) (he : v.ends = w.ends) :
    v.IsWatched := by
  rwa [IsWatched, he]

theorem IsReachable.of_ends {v : Window} (h : w.IsReachable) (he : v.ends = w.ends) :
    v.IsReachable := by
  rwa [IsReachable, he]

/-! ## What is painted -/

theorem takePaints_mapChannel (w : Window) {f : Channel → Channel}
    (hf : ∀ c, (f c).paints.pending = c.paints.pending) :
    (w.mapChannel f).takePaints.1 = w.takePaints.1 := by
  rw [takePaints, takePaints, channel?_mapChannel]
  cases w.channel? with
  | none => rfl
  | some c => exact hf c

theorem takePaints_takeEvents (w : Window) : w.takeEvents.2.takePaints.1 = w.takePaints.1 := by
  rw [takeEvents]
  split
  · rfl
  · exact takePaints_mapChannel w fun _ => rfl

theorem takePaints_foldl_deliver (w : Window) (es : List WindowEvent) :
    (es.foldl deliver w).takePaints.1 = w.takePaints.1 := by
  induction es generalizing w with
  | nil => rfl
  | cons e es ih => exact (ih (w.deliver e)).trans (takePaints_mapChannel w fun _ => rfl)

theorem takePaints_issue (h : w.IsWatched) (p : Paint) :
    (w.issue p).takePaints.1 = w.takePaints.1 ++ [p] := by
  obtain ⟨e, he, hs, hr⟩ := h
  obtain ⟨c, hc, rfl⟩ := Option.map_eq_some_iff.1 he
  rw [takePaints, takePaints, issue, channel?_mapChannel, hc]
  exact Link.pending_send c.paints p hs hr

theorem takePaints_display (h : w.IsWatched) (f : Frame) :
    (w.display f).takePaints.1 = w.takePaints.1 ++ f.paints := by
  rw [display]
  generalize f.paints = ps
  induction ps generalizing w with
  | nil => rw [List.foldl_nil, List.append_nil]
  | cons p ps ih =>
    have hw : (w.issue p).IsWatched := h.of_ends (ends_issue w p)
    rw [List.foldl_cons, ih hw, takePaints_issue h, List.append_assoc, List.singleton_append]

/-- `display` passes on the `paints` of each frame, in order. -/
theorem takePaints_foldl_display (h : w.IsWatched) (fs : List Frame) :
    (fs.foldl display w).takePaints.1 = w.takePaints.1 ++ fs.flatMap Frame.paints := by
  induction fs generalizing w with
  | nil => rw [List.foldl_nil, List.flatMap_nil, List.append_nil]
  | cons f fs ih =>
    have hw : (w.display f).IsWatched := h.of_ends (ends_display w f)
    rw [List.foldl_cons, ih hw, takePaints_display h, List.append_assoc, List.flatMap_cons]

/-- `takePaints` leaves no instructions. -/
theorem takePaints_snd (w : Window) :
    w.takePaints.2 = w.mapChannel fun c => { c with paints := c.paints.emptied } := by
  rw [takePaints]
  split
  · rename_i hc
    exact (mapChannel_eq_self fun c h => absurd (hc.symm.trans h) nofun).symm
  · rfl

/-- `takePaints` changes nothing if there are no instructions. -/
theorem takePaints_of_blank (h : w.takePaints.1 = []) : w.takePaints.2 = w := by
  rw [takePaints_snd]
  refine mapChannel_eq_self fun c hc => ?_
  rw [takePaints, hc] at h
  have hq : c.paints.queue = #[] := Array.toList_eq_nil_iff.1 h
  rw [Link.emptied, ← hq]

/-- `takePaints` leaves the same window, whatever was displayed. -/
theorem takePaints_snd_foldl_display (w : Window) (fs : List Frame) :
    (fs.foldl display w).takePaints.2 = w.takePaints.2 := by
  refine foldl_display_of_issue (fun w => w.takePaints.2) (fun v p => ?_) w fs
  rw [takePaints_snd, takePaints_snd, issue, mapChannel_mapChannel]
  simp only [Link.emptied_send]

/-! ## Which events wait -/

theorem takeEvents_mapChannel (w : Window) {f : Channel → Channel}
    (hf : ∀ c, (f c).events.pending = c.events.pending) :
    (w.mapChannel f).takeEvents.1 = w.takeEvents.1 := by
  rw [takeEvents, takeEvents, channel?_mapChannel]
  cases w.channel? with
  | none => rfl
  | some c => exact hf c

/-- A second `takeEvents` finds no event. -/
theorem takeEvents_takeEvents (w : Window) : w.takeEvents.2.takeEvents.1 = [] := by
  cases hc : w.channel? <;> simp [takeEvents, hc]

/-- `takeEvents` changes nothing if no event waits. -/
theorem takeEvents_of_silent (h : w.takeEvents.1 = []) : w.takeEvents = ([], w) := by
  rw [takeEvents] at h ⊢
  cases hc : w.channel? with
  | none => rfl
  | some c =>
    rw [hc] at h
    refine Prod.ext h (mapChannel_eq_self fun c' hc' => ?_)
    obtain rfl : c = c' := Option.some.inj (hc.symm.trans hc')
    have hq : c.events.queue = #[] := Array.toList_eq_nil_iff.1 h
    rw [Link.emptied, ← hq]

theorem takeEvents_foldl_display (w : Window) (fs : List Frame) :
    (fs.foldl display w).takeEvents.1 = w.takeEvents.1 :=
  foldl_display_of_issue (fun w => w.takeEvents.1)
    (fun v _ => takeEvents_mapChannel v fun _ => rfl) w fs

theorem takeEvents_deliver (h : w.IsReachable) (e : WindowEvent) :
    (w.deliver e).takeEvents.1 = w.takeEvents.1 ++ [e] := by
  obtain ⟨ends, he, hs, hr⟩ := h
  obtain ⟨c, hc, rfl⟩ := Option.map_eq_some_iff.1 he
  rw [takeEvents, takeEvents, deliver, channel?_mapChannel, hc]
  exact Link.pending_send c.events e hs hr

/-- `takeEvents` gives the events in the order of `deliver`. -/
theorem takeEvents_foldl_deliver (h : w.IsReachable) (es : List WindowEvent) :
    (es.foldl deliver w).takeEvents.1 = w.takeEvents.1 ++ es := by
  induction es generalizing w with
  | nil => rw [List.foldl_nil, List.append_nil]
  | cons e es ih =>
    have hw : (w.deliver e).IsReachable := h.of_ends (ends_deliver w e)
    rw [List.foldl_cons, ih hw, takeEvents_deliver h, List.append_assoc, List.singleton_append]

end Window

end TurtleGraphics
