import TurtleGraphics.Link

/-!
# What goes through a link

The parties of a link act in any order, and each may leave at any time. `Link.taken` is all that the
receiver gets of their actions, and `Link.sent` what the sender sends while it is there.

* `Link.taken_append_pending`: while the receiver stays, what was taken and what still waits is what
  was sent, each item once and in order;
* `Link.sent_append`: what waits is what was sent since everything was taken;
* `Link.taken_of_gone`, `Link.taken_of_mem_closeReceiver`: once the receiver has left, nothing waits
  for it and it gets nothing any more.
-/

namespace TurtleGraphics.Link

/-- What one of the parties of a `Link` does. -/
inductive Action (α : Type) where
  | send (a : α)
  | takeAll
  | closeSender
  | closeReceiver

section

variable {α : Type}

/-- What the receiver gets of an action on `l`, and the link behind it. -/
def act (l : Link α) : Action α → List α × Link α
  | .send a => ([], l.send a)
  | .takeAll => l.takeAll
  | .closeSender => ([], l.closeSender)
  | .closeReceiver => ([], l.closeReceiver)

/-- The link behind `actions` on `l`, one after the other. -/
def after (l : Link α) (actions : List (Action α)) : Link α :=
  actions.foldl (fun l a => (l.act a).2) l

/-- What the receiver gets of actions on `l`, in order. -/
def taken (l : Link α) : List (Action α) → List α
  | [] => []
  | a :: actions => (l.act a).1 ++ (l.act a).2.taken actions

/-- What is sent in front of the first `closeSender`. -/
def sent : List (Action α) → List α
  | [] => []
  | .closeSender :: _ => []
  | .send a :: actions => a :: sent actions
  | .takeAll :: actions | .closeReceiver :: actions => sent actions

variable {l : Link α} {actions : List (Action α)}

@[simp] theorem after_nil (l : Link α) : l.after [] = l := rfl

@[simp] theorem taken_nil (l : Link α) : l.taken [] = [] := rfl

theorem after_cons (l : Link α) (a : Action α) (actions : List (Action α)) :
    l.after (a :: actions) = (l.act a).2.after actions := rfl

theorem after_append (l : Link α) (as bs : List (Action α)) :
    l.after (as ++ bs) = (l.after as).after bs :=
  List.foldl_append

theorem taken_append (l : Link α) (as bs : List (Action α)) :
    l.taken (as ++ bs) = l.taken as ++ (l.after as).taken bs := by
  induction as generalizing l with
  | nil => rfl
  | cons a as ih => rw [List.cons_append, taken, taken, ih, List.append_assoc, after_cons]

theorem after_map_send (l : Link α) (sent : List α) :
    l.after (sent.map .send) = sent.foldl send l := by
  rw [after, List.foldl_map]
  rfl

theorem taken_map_send (l : Link α) (sent : List α) : l.taken (sent.map .send) = [] := by
  induction sent generalizing l with
  | nil => rfl
  | cons a sent ih => exact ih (l.send a)

/-- While the receiver stays, all of `l.pending` and of `sent actions` is `taken` or `pending` in
the end, in this order. -/
theorem taken_append_pending (hr : l.receiverOpen = true) (h : .closeReceiver ∉ actions) :
    l.taken actions ++ (l.after actions).pending =
      l.pending ++ if l.senderOpen then sent actions else [] := by
  induction actions generalizing l with
  | nil => cases l.senderOpen <;> simp [sent]
  | cons a actions ih =>
    have ha : .closeReceiver ∉ actions := fun hm => h (List.mem_cons_of_mem _ hm)
    rw [taken, after_cons]
    cases a with
    | closeReceiver => exact absurd List.mem_cons_self h
    | takeAll =>
      have hi := ih (l := l.emptied) hr ha
      rw [pending_emptied, List.nil_append] at hi
      rw [act, takeAll, List.append_assoc, hi]
      rfl
    | closeSender =>
      have hi := ih (l := l.closeSender) hr ha
      rw [act, List.nil_append, hi]
      cases l.senderOpen <;> rfl
    | send a =>
      have hi := ih (l := l.send a) (by rw [receiverOpen_send, hr]) ha
      rw [act, List.nil_append, hi, senderOpen_send]
      cases hs : l.senderOpen with
      | false => rw [send_of_sender_closed l a hs, if_neg Bool.false_ne_true,
          if_neg Bool.false_ne_true]
      | true =>
        rw [pending_send l a hs hr, if_pos rfl, if_pos rfl, List.append_assoc]
        rfl

/-- Behind a `takeAll` nothing is `pending`. -/
theorem pending_after_takeAll (l : Link α) (actions : List (Action α)) :
    (l.after (actions ++ [.takeAll])).pending = [] := by
  rw [after_append]
  rfl

/-- Once the receiver has left, nothing is `pending` and nothing is `taken`, whatever is done. -/
theorem taken_of_gone (hr : l.receiverOpen = false) (hp : l.pending = [])
    (actions : List (Action α)) : l.taken actions = [] ∧ (l.after actions).pending = [] := by
  induction actions generalizing l with
  | nil => exact ⟨rfl, hp⟩
  | cons a actions ih =>
    rw [taken, after_cons]
    cases a with
    | send a =>
      have hi := ih hr hp
      rwa [act, List.nil_append, send_of_receiver_closed l a hr]
    | takeAll =>
      have hi := ih (l := l.emptied) hr rfl
      rwa [act, takeAll, hp, List.nil_append]
    | closeSender => exact ih (l := l.closeSender) hr hp
    | closeReceiver => exact ih (l := l.closeReceiver) rfl rfl

theorem sent_map_send_append (items : List α) (actions : List (Action α)) :
    sent (items.map .send ++ actions) = items ++ sent actions := by
  induction items with
  | nil => rfl
  | cons a items ih => exact congrArg (a :: ·) ih

/-- The receiver gets nothing without a `takeAll`. -/
theorem taken_of_not_mem_takeAll (h : .takeAll ∉ actions) (l : Link α) : l.taken actions = [] := by
  induction actions generalizing l with
  | nil => rfl
  | cons a actions ih =>
    have ha := ih fun hm => h (List.mem_cons_of_mem _ hm)
    rw [taken, ha, List.append_nil]
    cases a with
    | takeAll => exact absurd List.mem_cons_self h
    | send _ | closeSender | closeReceiver => rfl

/-- What is `pending` is what was `sent` in `back`, since nothing was pending behind `front`. -/
theorem sent_append {front back : List (Action α)} (hl : l.pending = []) (hs : l.senderOpen = true)
    (hr : l.receiverOpen = true) (hc : .closeReceiver ∉ front ++ back)
    (hf : (l.after front).pending = []) (hb : .takeAll ∉ back) :
    sent (front ++ back) = sent front ++ (l.after (front ++ back)).pending := by
  have whole := taken_append_pending hr hc
  have part := taken_append_pending hr fun hm => hc (List.mem_append_left back hm)
  rw [hl, hs, if_pos rfl, List.nil_append] at whole part
  rw [hf, List.append_nil] at part
  rw [← whole, ← part, taken_append, taken_of_not_mem_takeAll hb, List.append_nil]

theorem taken_of_mem_closeReceiver (h : .closeReceiver ∈ actions) (l : Link α)
    (rest : List (Action α)) :
    l.taken (actions ++ rest) = l.taken actions ∧ (l.after (actions ++ rest)).pending = [] := by
  obtain ⟨as, bs, rfl⟩ := List.append_of_mem h
  have gone (actions : List (Action α)) :=
    taken_of_gone (l := (l.after as).closeReceiver) rfl rfl actions
  have behind (actions : List (Action α)) :
      l.taken (as ++ .closeReceiver :: actions) = l.taken as ∧
        (l.after (as ++ .closeReceiver :: actions)).pending = [] := by
    rw [taken_append, after_append, after_cons, taken, act, List.nil_append, (gone actions).1,
      List.append_nil]
    exact ⟨rfl, (gone actions).2⟩
  rw [List.append_assoc, List.cons_append, (behind bs).1]
  exact behind (bs ++ rest)

end

end TurtleGraphics.Link
