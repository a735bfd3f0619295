/-!
# Links

A `Link` is a one-way queue between two parties who may each leave. What is sent waits in order
until the receiver takes it. A sender who has left sends nothing more, but what was sent stays; once
the receiver has left, nothing is kept for it. Sending never fails, whoever has left.
-/

namespace TurtleGraphics

structure Link (α : Type) where
  queue : Array α := #[]
  senderOpen : Bool := true
  receiverOpen : Bool := true
  deriving Repr

namespace Link

variable {α : Type}

/-- What has been sent over `l` and not taken, the oldest first. -/
def pending (l : Link α) : List α :=
  l.queue.toList

def send (l : Link α) (a : α) : Link α :=
  if l.senderOpen && l.receiverOpen then { l with queue := l.queue.push a } else l

/-- `l` after everything was taken from it. -/
def emptied (l : Link α) : Link α :=
  { l with queue := #[] }

/-- Takes `l.pending`. -/
def takeAll (l : Link α) : List α × Link α :=
  (l.pending, l.emptied)

def closeSender (l : Link α) : Link α :=
  { l with senderOpen := false }

def closeReceiver (l : Link α) : Link α :=
  { l with queue := #[], receiverOpen := false }

section

variable (l : Link α) (a : α)

theorem pending_send (hs : l.senderOpen = true) (hr : l.receiverOpen = true) :
    (l.send a).pending = l.pending ++ [a] := by
  simp [send, pending, hs, hr]

theorem send_of_sender_closed (hs : l.senderOpen = false) : l.send a = l := by
  simp [send, hs]

theorem send_of_receiver_closed (hr : l.receiverOpen = false) : l.send a = l := by
  simp [send, hr]

@[simp] theorem senderOpen_send : (l.send a).senderOpen = l.senderOpen := by
  unfold send; split <;> rfl

@[simp] theorem receiverOpen_send : (l.send a).receiverOpen = l.receiverOpen := by
  unfold send; split <;> rfl

/-- What is sent over a link that is open at both ends is `pending` in the order of sending. -/
theorem pending_foldl_send {l : Link α} (hs : l.senderOpen = true) (hr : l.receiverOpen = true)
    (sent : List α) : (sent.foldl send l).pending = l.pending ++ sent := by
  induction sent generalizing l with
  | nil => simp
  | cons a sent ih =>
    rw [List.foldl_cons, ih (by rw [senderOpen_send, hs]) (by rw [receiverOpen_send, hr]),
      pending_send l a hs hr, List.append_assoc, List.singleton_append]

@[simp] theorem pending_emptied : l.emptied.pending = [] := rfl

@[simp] theorem pending_closeSender : l.closeSender.pending = l.pending := rfl

end

end Link

end TurtleGraphics
