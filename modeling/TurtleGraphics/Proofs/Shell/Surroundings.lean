import TurtleGraphics.Proofs.Console.Turns
import TurtleGraphics.Proofs.Shell.Quiet

/-!
# Surroundings of a shell

A shell is called from outside, again and again, and each call ends in a `Report`. What a shell does
must not depend on its `Surroundings`: its kind of `Window`, and whether the instructions and the
messages have a receiver.

* `Shell.observe_eq`: a call without events does what its lines do, and nothing else of the shell
  changes;
* `Shell.reports_eq`: so all reports are those of the effects, as far as they arrive;
* `Shell.reports_wrap`: a wrapped window makes no difference, with events or without;
* `Surroundings.reports_agree`: any two surroundings side by side.
-/

namespace TurtleGraphics

/-- A call of `Shell.execLine`, `Shell.execScript` or `Shell.run`, or an event for the window. -/
inductive Call where
  | line (text : String)
  | script (lines : List String)
  /-- `Shell.run`, with `input` arriving at the console. -/
  | run (input : List Arrival)
  /-- `Window.deliver`, with `event`. -/
  | event (event : WindowEvent)

/-- What comes of a `call`: the ending, the turtle, and what has arrived of the messages and of the
instructions. -/
structure Report where
  call : Call
  ending : Option Ending
  turtle : Turtle
  messages : List Message
  paints : List Paint

namespace Call

/-- The call has no event. -/
def IsQuiet : Call → Prop
  | .line _ | .script _ => True
  | .run input => ∃ lines : List String, input = lines.map .line
  | .event _ => False

/-- What `greeting` adds to the messages of a call: one print in front of a `.run`. -/
def welcome (greeting : Option String) : Call → List Message
  | .run _ => (greeting.map Message.print).toList
  | .line _ | .script _ | .event _ => []

end Call

/-- What a call that `IsQuiet` does. -/
def Turtle.callEffect (t : Turtle) : Call → Effect
  | .line text => t.effect text
  | .script lines => t.scriptEffect lines
  | .run input =>
    let e := t.scriptEffect (input.filterMap Arrival.line?)
    { e with ending := some (e.ending.getD .inputEnded), frames := t.frame :: e.frames }
  | .event _ => { turtle := t }

/-- The effects of calls that are `IsQuiet`, each on the turtle that the one before leaves. -/
def Turtle.callEffects (t : Turtle) : List Call → List (Call × Effect)
  | [] => []
  | call :: calls => (call, t.callEffect call) :: (t.callEffect call).turtle.callEffects calls

namespace Shell

/-- The ending and the shell that a call leaves. The shell can be called again after any ending. -/
def perform (s : Shell) : Call → Option Ending × Shell
  | .line text => s.execLine text
  | .script lines => s.execScript lines
  | .run input =>
    let (ending, s) := (s.withInput input).run
    (some ending, s)
  | .event e => (none, { s with window := s.window.deliver e })

/-- Makes `call`, and then takes all messages and instructions that have arrived. -/
def observe (s : Shell) (call : Call) : Report × Shell :=
  let (ending, s) := s.perform call
  let (messages, console) := s.console.takeOutput
  let (paints, window) := s.window.takePaints
  ({ call, ending, turtle := s.turtle, messages, paints }, { s with console, window })

def reports (s : Shell) : List Call → List Report
  | [] => []
  | call :: calls => (s.observe call).1 :: (s.observe call).2.reports calls

/-! ## Calls without events -/

/-- What arrives of `e`, the effect of `call`. -/
def reported (s : Shell) (call : Call) (e : Effect) : Report :=
  { call
    ending := e.ending
    turtle := e.turtle
    messages :=
      ((call.welcome s.console.greeting ++ e.messages).foldl Link.send s.console.output).pending
    paints := (e.frames.foldl Window.display s.window).takePaints.1 }

/-- All messages and instructions that were sent have been taken. -/
structure IsDrained (s : Shell) : Prop where
  output : s.console.output.emptied = s.console.output
  window : s.window.takePaints.2 = s.window

section

variable {s : Shell} {call : Call}

theorem perform_eq (h : s.IsQuiet) (hc : call.IsQuiet) :
    ∃ unread, s.perform call =
      ((s.turtle.callEffect call).ending,
        (s.after { s.turtle.callEffect call with
          messages := call.welcome s.console.greeting ++ (s.turtle.callEffect call).messages
        }).withInput unread) := by
  cases call with
  | line text => exact ⟨_, execLine_eq s text⟩
  | script lines => exact ⟨_, execScript_eq_after s lines⟩
  | event e => exact hc.elim
  | run input =>
    obtain ⟨lines, rfl⟩ := hc
    obtain ⟨hr, -⟩ := h.run_eq lines
    refine ⟨(behindQuit lines).map .line, ?_⟩
    rw [perform, hr, Turtle.callEffect, Arrival.filterMap_line?]
    rfl

/-- A call that `IsQuiet` leaves the turtle of `callEffect`, and all else as it was but for the
unread input. -/
theorem observe_eq (h : s.IsQuiet) (hd : s.IsDrained) (hc : call.IsQuiet) :
    ∃ unread, s.observe call =
      (s.reported call (s.turtle.callEffect call),
        { s with turtle := (s.turtle.callEffect call).turtle }.withInput unread) := by
  obtain ⟨unread, hp⟩ := perform_eq h hc
  refine ⟨unread, ?_⟩
  have emptied (ms : List Message) :
      (ms.foldl Link.send s.console.output).emptied = s.console.output := by
    rw [Link.emptied_foldl_send, hd.output]
  have taken (fs : List Frame) : (fs.foldl Window.display s.window).takePaints.2 = s.window := by
    rw [Window.takePaints_snd_foldl_display, hd.window]
  rw [observe, hp]
  simp only [withInput, after, Console.foldl_send, Console.takeOutput, emptied, taken]
  rfl

theorem reports_eq (h : s.IsQuiet) (hd : s.IsDrained) {calls : List Call}
    (hc : ∀ call ∈ calls, call.IsQuiet) :
    s.reports calls = (s.turtle.callEffects calls).map fun (call, e) => s.reported call e := by
  induction calls generalizing s with
  | nil => rfl
  | cons call calls ih =>
    obtain ⟨hq, hr⟩ := List.forall_mem_cons.1 hc
    obtain ⟨unread, ho⟩ := observe_eq h hd hq
    -- What arrives of an effect does not depend on the turtle or the unread input of the shell.
    let s' : Shell := { s with turtle := (s.turtle.callEffect call).turtle }
    have rest := ih (s := s'.withInput unread) ⟨h.silent, h.promptless⟩ ⟨hd.output, hd.window⟩ hr
    rw [reports, ho]
    exact congrArg (s.reported call (s.turtle.callEffect call) :: ·) rest

end

/-! ## Wrapped windows -/

/-- `s` with its window `.wrapped`. -/
def wrap (s : Shell) : Shell :=
  { s with window := .wrapped s.window }

section

variable (s : Shell)

theorem after_wrap (e : Effect) : s.wrap.after e = (s.after e).wrap := by
  rw [wrap, wrap, after, after, Window.foldl_display_wrapped]

theorem execScript_wrap (lines : List String) :
    s.wrap.execScript lines = ((s.execScript lines).1, (s.execScript lines).2.wrap) := by
  rw [execScript_eq_after, execScript_eq_after, after_wrap]
  rfl

end

section

variable {s s' : Shell}

theorem execLine_wrap {line : String} {e : Option Ending} (h : s.execLine line = (e, s')) :
    s.wrap.execLine line = (e, s'.wrap) := by
  rw [execLine_eq] at h ⊢
  rw [after_wrap, ← (Prod.mk.inj h).2, ← (Prod.mk.inj h).1]
  rfl

theorem ready_wrap {e : Option Ending} (h : s.ready = (e, s')) : s.wrap.ready = (e, s'.wrap) := by
  have hr : s.wrap.ready = (s.ready.1, s.ready.2.wrap) := by
    rw [ready, ready, takeExit, takeExit, wrap, Window.takeEvents_wrapped]
    dsimp only
    split <;> rfl
  rw [hr, h]

theorem readLine_wrap {line : Option String} (h : s.readLine = (line, s')) :
    s.wrap.readLine = (line, s'.wrap) := by
  have hw := Window.foldl_deliver_wrapped s.window (Wait.ofArrivals s.console.input).events
  have hr : s.wrap.readLine = (s.readLine.1, s.readLine.2.wrap) :=
    congrArg (fun window => (s.readLine.1, { s.readLine.2 with window })) hw
  rw [hr, h]

end

end Shell

/-- A `Session` of `s` is one of `s.wrap`, too. -/
theorem Session.wrap {s s' : Shell} {steps : List Step} {e : Ending} (h : Session s steps e s') :
    ∃ steps', Session s.wrap steps' e s'.wrap := by
  induction h with
  | closed ready => exact ⟨_, .closed (Shell.ready_wrap ready)⟩
  | ended ready read => exact ⟨_, .ended (Shell.ready_wrap ready) (Shell.readLine_wrap read)⟩
  | last ready read exec =>
    exact ⟨_, .last (Shell.ready_wrap ready) (Shell.readLine_wrap read)
      (Shell.execLine_wrap exec)⟩
  | next ready read exec rest ih =>
    obtain ⟨steps', h'⟩ := ih
    exact ⟨_, .next (Shell.ready_wrap ready) (Shell.readLine_wrap read)
      (Shell.execLine_wrap exec) h'⟩

namespace Shell

variable (s : Shell)

theorem run_wrap : s.wrap.run = (s.run.1, s.run.2.wrap) := by
  obtain ⟨steps, h⟩ := s.start.exists_session
  obtain ⟨steps', h'⟩ := h.wrap
  have hstart : s.wrap.start = s.start.wrap := by
    rw [start_eq_after, start_eq_after, ← after_wrap]
    rfl
  rw [run, hstart, h'.loop_eq, run]

theorem observe_wrap (call : Call) :
    s.wrap.observe call = ((s.observe call).1, (s.observe call).2.wrap) := by
  have hp : s.wrap.perform call = ((s.perform call).1, (s.perform call).2.wrap) := by
    cases call with
    | line text => exact execLine_wrap rfl
    | script lines => exact s.execScript_wrap lines
    | run input =>
      have hi : s.wrap.withInput input = (s.withInput input).wrap := rfl
      rw [perform, perform, hi, run_wrap]
    | event e => rfl
  rw [observe, observe, hp]
  dsimp only [wrap]
  rw [Window.takePaints_wrapped]

/-- The `reports` of `s.wrap` are those of `s`, whatever `calls` are. -/
theorem reports_wrap (calls : List Call) : s.wrap.reports calls = s.reports calls := by
  induction calls generalizing s with
  | nil => rfl
  | cons call calls ih => rw [reports, observe_wrap, ih, reports]

end Shell

/-! ## Two surroundings -/

/-- Where a fresh shell is put. The `window` may have any ends open. -/
structure Surroundings where
  window : Window
  greeting : Option String := none
  /-- The receiver of the messages is open. -/
  heard : Bool := true
  silent : window.takeEvents.1 = []
  blank : window.takePaints.1 = []

namespace Surroundings

def shell (a : Surroundings) : Shell :=
  { window := a.window
    console := { greeting := a.greeting, output := { receiverOpen := a.heard } } }

/-- `a` with the greeting `greeting`. -/
def greeted (a : Surroundings) (greeting : Option String) : Surroundings :=
  { a with greeting }

/-- `a` with its window `.wrapped`. -/
def boxed (a : Surroundings) : Surroundings :=
  { a with
    window := .wrapped a.window
    silent := by rw [Window.takeEvents_wrapped, a.silent]
    blank := by rw [Window.takePaints_wrapped, a.blank] }

/-- `r` with the greeting `text` in front of its messages, if `a.heard` and the call is a `.run`. -/
def welcomed (a : Surroundings) (text : String) (r : Report) : Report :=
  { r with messages := (if a.heard then r.call.welcome (some text) else []) ++ r.messages }

section

variable (a : Surroundings)

theorem isQuiet_shell : a.shell.IsQuiet :=
  ⟨a.silent, rfl⟩

theorem isDrained_shell : a.shell.IsDrained :=
  ⟨rfl, Window.takePaints_of_blank a.blank⟩

/-- The reports of calls that are `IsQuiet` are those of `callEffects`, and differ at most in what
arrives. -/
theorem reports_shell {calls : List Call} (hc : ∀ call ∈ calls, call.IsQuiet) :
    a.shell.reports calls =
      (Turtle.fresh.callEffects calls).map fun (call, e) => a.shell.reported call e :=
  Shell.reports_eq a.isQuiet_shell a.isDrained_shell hc

/-- If `a.heard`, the messages of `e` all arrive, behind the greeting. -/
theorem messages_of_heard {a : Surroundings} (h : a.heard = true) (call : Call) (e : Effect) :
    (a.shell.reported call e).messages = call.welcome a.greeting ++ e.messages :=
  Link.pending_foldl_send rfl h _

theorem messages_of_unheard {a : Surroundings} (h : a.heard = false) (call : Call) (e : Effect) :
    (a.shell.reported call e).messages = [] := by
  rw [Shell.reported, Link.foldl_send_of_receiver_closed h]
  rfl

theorem paints_reported (h : a.window.IsWatched) (call : Call) (e : Effect) :
    (a.shell.reported call e).paints = e.frames.flatMap Frame.paints := by
  have hp : (a.shell.reported call e).paints = _ := Window.takePaints_foldl_display h e.frames
  rw [hp, a.blank, List.nil_append]

theorem reported_greeted (text : String) (call : Call) (e : Effect) :
    (a.greeted (some text)).shell.reported call e =
      a.welcomed text ((a.greeted none).shell.reported call e) := by
  have hn : call.welcome none = [] := by cases call <;> rfl
  have hm : ((a.greeted (some text)).shell.reported call e).messages =
      (if a.heard then call.welcome (some text) else []) ++
        ((a.greeted none).shell.reported call e).messages := by
    cases hh : a.heard with
    | true =>
      rw [messages_of_heard (a := a.greeted (some text)) hh,
        messages_of_heard (a := a.greeted none) hh, greeted, greeted, hn]
      rfl
    | false =>
      rw [messages_of_unheard (a := a.greeted (some text)) hh,
        messages_of_unheard (a := a.greeted none) hh]
      rfl
  exact congrArg (fun messages => { (a.greeted none).shell.reported call e with messages }) hm

end

/-- In any surroundings `a` and `b`, the same `calls` end alike and leave the same turtle as long as
they are `IsQuiet`. The messages are the same if both are `heard`, except for the greeting in front
of those of a `.run`, and the instructions if both windows are `IsWatched`. Even with events, the
reports in `a.boxed` are those in `a`. -/
theorem reports_agree (a b : Surroundings) (calls : List Call) :
    ((∀ call ∈ calls, call.IsQuiet) →
      (a.shell.reports calls).map Report.ending = (b.shell.reports calls).map Report.ending ∧
      (a.shell.reports calls).map Report.turtle = (b.shell.reports calls).map Report.turtle ∧
      (a.heard = true → b.heard = true → a.greeting = b.greeting →
        (a.shell.reports calls).map Report.messages =
          (b.shell.reports calls).map Report.messages) ∧
      (a.window.IsWatched → b.window.IsWatched →
        (a.shell.reports calls).map Report.paints = (b.shell.reports calls).map Report.paints) ∧
      ∀ text, (a.greeted (some text)).shell.reports calls =
        ((a.greeted none).shell.reports calls).map (a.welcomed text)) ∧
    a.boxed.shell.reports calls = a.shell.reports calls := by
  refine ⟨fun hc => ?_, a.shell.reports_wrap calls⟩
  have field {α : Type} (f : Report → α)
      (hf : ∀ call e, f (a.shell.reported call e) = f (b.shell.reported call e)) :
      (a.shell.reports calls).map f = (b.shell.reports calls).map f := by
    rw [a.reports_shell hc, b.reports_shell hc, List.map_map, List.map_map]
    exact List.map_congr_left fun (call, e) _ => hf call e
  refine ⟨field _ fun _ _ => rfl, field _ fun _ _ => rfl, fun ha hb hg => field _ fun call e => ?_,
    fun ha hb => field _ fun call e => ?_, fun text => ?_⟩
  · rw [messages_of_heard ha, messages_of_heard hb, hg]
  · rw [a.paints_reported ha, b.paints_reported hb]
  · rw [(a.greeted (some text)).reports_shell hc, (a.greeted none).reports_shell hc, List.map_map]
    exact List.map_congr_left fun (call, e) _ => a.reported_greeted text call e

end Surroundings

end TurtleGraphics
