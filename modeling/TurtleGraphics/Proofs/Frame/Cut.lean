import Mathlib.Data.List.Chain
import TurtleGraphics.Frame

/-!
# The picture by the cut of a history

A state *breaks* the strip if it is a rectangle or a point with the pen up. `IsCut` says what it
means to cut a history there: it is the history piece by piece, every breaking state is a piece of
its own, and what lies between two of them is one run, as long as it can be. There is exactly one
cut (`exists_cut`, `IsCut.unique`), and each of its pieces gives one primitive or none.

* `Sketch.primitives_foldl`: the sketch of a history, from any sketch without an open strip, adds
  the primitives of its cut;
* `segments_cut`: the segments of the strips are the pairs of neighbors that both leave the strip
  unbroken;
* `exists_sources`: the primitives are drawn from disjoint parts of the history;
* `render_eq_cut`: the three together.
-/

namespace TurtleGraphics

namespace State

/-- `s` is a `Shape.rect`, whatever its pen, or has the pen up. -/
def breaks (s : State) : Bool :=
  s.isRect || !s.penDown

/-- The position of `s`, in the color of its pen. -/
def vertex (s : State) : Vertex :=
  ⟨s.position, s.color⟩

end State

/-- A piece of a history: a `run` of states that leave the strip unbroken, or one state that
`breaks` it, a `gap`. -/
inductive Stretch where
  | run (states : List State)
  | gap (state : State)

namespace Stretch

def states : Stretch → List State
  | .run ss => ss
  | .gap s => [s]

def IsRun : Stretch → Prop
  | .run _ => True
  | .gap _ => False

/-- What a piece adds to the picture: a `run` of two states or more is a strip, and a `gap` with a
rectangle is a quad. -/
def primitive? : Stretch → Option Primitive
  | .run ss => if 2 ≤ ss.length then some (.strip (ss.map State.vertex)) else none
  | .gap s =>
    match s.shape with
    | .rect r => some (.quad r.corners s.color)
    | .point _ => none

end Stretch

/-- The pieces `cut` are those of `history`, which is cut at every state that `breaks` the strip,
and only there. -/
structure IsCut (history : List State) (cut : List Stretch) : Prop where
  whole : cut.flatMap Stretch.states = history
  run : ∀ ss, .run ss ∈ cut → ss ≠ [] ∧ ∀ s ∈ ss, s.breaks = false
  gap : ∀ s, .gap s ∈ cut → s.breaks = true
  maximal : cut.IsChain fun a b => ¬ (a.IsRun ∧ b.IsRun)

namespace IsCut

variable {history : List State} {cut : List Stretch} {p : Stretch} {ss : List State}

theorem tail (h : IsCut history (p :: cut)) : IsCut (cut.flatMap Stretch.states) cut where
  whole := rfl
  run ss hs := h.run ss (List.mem_cons_of_mem _ hs)
  gap s hs := h.gap s (List.mem_cons_of_mem _ hs)
  maximal := h.maximal.tail

/-- Behind a `run` the history ends, or a state `breaks` the strip. -/
theorem breaks_of_head? (h : IsCut history (.run ss :: cut)) :
    ∀ s ∈ (cut.flatMap Stretch.states).head?, s.breaks = true := by
  cases cut with
  | nil => simp
  | cons q cut =>
    cases q with
    | run tt => exact absurd ⟨trivial, trivial⟩ (List.isChain_cons_cons.1 h.maximal).1
    | gap s =>
      have hs := h.gap s (by simp)
      simpa [Stretch.states] using hs

theorem nil : IsCut [] [] := ⟨rfl, by simp, by simp, .nil⟩

theorem cons_gap {s : State} (hs : s.breaks = true) (h : IsCut history cut) :
    IsCut (s :: history) (.gap s :: cut) where
  whole := congrArg (s :: ·) h.whole
  run ss hss := h.run ss (by simpa using hss)
  gap t ht := by
    obtain he | ht := List.mem_cons.1 ht
    · cases he
      exact hs
    · exact h.gap t ht
  maximal := List.isChain_cons.2 ⟨fun q _ hq => hq.1, h.maximal⟩

/-- A state in front of a `run` that leaves the strip unbroken belongs to the run. -/
theorem cons_run {s : State} (hs : s.breaks = false) (h : IsCut history (.run ss :: cut)) :
    IsCut (s :: history) (.run (s :: ss) :: cut) where
  whole := congrArg (s :: ·) h.whole
  run tt ht := by
    obtain he | ht := List.mem_cons.1 ht
    · cases he
      exact ⟨by simp, List.forall_mem_cons.2 ⟨hs, (h.run ss List.mem_cons_self).2⟩⟩
    · exact h.run tt (List.mem_cons_of_mem _ ht)
  gap t ht := h.gap t (by simpa using ht)
  maximal := by
    obtain ⟨hq, hc⟩ := List.isChain_cons.1 h.maximal
    exact List.isChain_cons.2 ⟨hq, hc⟩

/-- A state that leaves the strip unbroken is a `run` of its own if none follows. -/
theorem cons_single {s : State} (hs : s.breaks = false) (h : IsCut history cut)
    (hr : ∀ q ∈ cut.head?, ¬ q.IsRun) : IsCut (s :: history) (.run [s] :: cut) where
  whole := congrArg (s :: ·) h.whole
  run tt ht := by
    obtain he | ht := List.mem_cons.1 ht
    · cases he
      exact ⟨by simp, by simpa using hs⟩
    · exact h.run tt ht
  gap t ht := h.gap t (by simpa using ht)
  maximal := List.isChain_cons.2 ⟨fun q hq hb => hr q hq hb.2, h.maximal⟩

end IsCut

theorem exists_cut (history : List State) : ∃ cut, IsCut history cut := by
  induction history with
  | nil => exact ⟨[], .nil⟩
  | cons s history ih =>
    obtain ⟨cut, h⟩ := ih
    cases hs : s.breaks with
    | true => exact ⟨_, h.cons_gap hs⟩
    | false =>
      match cut, h with
      | [], h => exact ⟨_, h.cons_single hs (by simp)⟩
      | .run ss :: cut, h => exact ⟨_, h.cons_run hs⟩
      | .gap t :: cut, h => exact ⟨_, h.cons_single hs (by simp [Stretch.IsRun])⟩

/-- The states `ss` of a run are all of the history up to the next state that `breaks` the strip. -/
theorem takeWhile_run {ss rest : List State} (hs : ∀ s ∈ ss, s.breaks = false)
    (hr : ∀ s ∈ rest.head?, s.breaks = true) :
    (ss ++ rest).takeWhile (fun s => !s.breaks) = ss := by
  have he : rest.takeWhile (fun s => !s.breaks) = [] := by
    cases rest with
    | nil => rfl
    | cons s rest => simp [hr s (by simp)]
  rw [List.takeWhile_append_of_pos fun s h => by simp [hs s h], he, List.append_nil]

namespace IsCut

variable {history : List State} {cut : List Stretch} {ss : List State}

theorem eq_nil (h : IsCut [] cut) : cut = [] := by
  cases cut with
  | nil => rfl
  | cons p cut =>
    have hw := h.whole
    cases p with
    | gap s => simp [Stretch.states] at hw
    | run ss => simp [Stretch.states, (h.run ss List.mem_cons_self).1] at hw

theorem takeWhile_eq (h : IsCut history (.run ss :: cut)) :
    history.takeWhile (fun s => !s.breaks) = ss := by
  rw [← h.whole]
  exact takeWhile_run (h.run ss List.mem_cons_self).2 h.breaks_of_head?

/-- The first piece is a `gap` if the first state `breaks` the strip, and else a `run`. -/
theorem first_piece {s : State} (h : IsCut (s :: history) cut) :
    (s.breaks = true ∧ ∃ cut', cut = .gap s :: cut') ∨
    (s.breaks = false ∧ ∃ ss cut', cut = .run ss :: cut') := by
  cases cut with
  | nil => exact absurd h.whole (by simp)
  | cons p cut =>
    have hw := h.whole
    cases p with
    | gap t =>
      obtain ⟨rfl, -⟩ : t = s ∧ _ := by simpa [Stretch.states] using hw
      exact .inl ⟨h.gap t List.mem_cons_self, _, rfl⟩
    | run ss =>
      obtain ⟨hne, hs⟩ := h.run ss List.mem_cons_self
      obtain ⟨t, ss, rfl⟩ := List.exists_cons_of_ne_nil hne
      obtain ⟨rfl, -⟩ : t = s ∧ _ := by simpa [Stretch.states] using hw
      exact .inr ⟨hs t List.mem_cons_self, _, _, rfl⟩

theorem unique {cut' : List Stretch} (h : IsCut history cut) (h' : IsCut history cut') :
    cut' = cut := by
  induction cut generalizing history cut' with
  | nil =>
    obtain rfl : history = [] := h.whole.symm
    exact h'.eq_nil
  | cons p cut ih =>
    cases history with
    | nil => exact absurd h.eq_nil (by simp)
    | cons s history =>
      -- both first pieces are decided by `s`, and what they leave of the history is the same
      rcases h.first_piece with ⟨hs, c, he⟩ | ⟨hs, ss, c, he⟩ <;>
        rcases h'.first_piece with ⟨hs', c', rfl⟩ | ⟨hs', ss', c', rfl⟩
      · obtain ⟨rfl, rfl⟩ := List.cons_eq_cons.1 he
        have hw : c'.flatMap Stretch.states = cut.flatMap Stretch.states :=
          (List.cons_eq_cons.1 (h'.whole.trans h.whole.symm)).2
        have ht : IsCut (cut.flatMap Stretch.states) c' := hw ▸ h'.tail
        rw [ih h.tail ht]
      · simp [hs] at hs'
      · simp [hs] at hs'
      · obtain ⟨rfl, rfl⟩ := List.cons_eq_cons.1 he
        obtain rfl : ss' = ss := by rw [← h'.takeWhile_eq, h.takeWhile_eq]
        have hw : c'.flatMap Stretch.states = cut.flatMap Stretch.states :=
          List.append_cancel_left (h'.whole.trans h.whole.symm)
        have ht : IsCut (cut.flatMap Stretch.states) c' := hw ▸ h'.tail
        rw [ih h.tail ht]

end IsCut

/-! ## The sketch -/

namespace Sketch

theorem lift_of_lt {k : Sketch} (h : k.strip.length < 2) : k.lift = ⟨k.finished, []⟩ := by
  obtain ⟨finished, strip⟩ := k
  match strip, h with
  | [], _ => rfl
  | [v], _ => rfl

theorem lift_of_le {k : Sketch} (h : 2 ≤ k.strip.length) :
    k.lift = ⟨.strip k.strip.reverse :: k.finished, []⟩ := by
  obtain ⟨finished, strip⟩ := k
  match strip, h with
  | v :: w :: strip, _ => rfl

theorem lift_of_nil {k : Sketch} (h : k.strip = []) : k.lift = k := by
  obtain ⟨finished, strip⟩ := k
  obtain rfl : strip = [] := h
  rfl

@[simp] theorem strip_lift (k : Sketch) : k.lift.strip = [] := by
  rcases Nat.lt_or_ge k.strip.length 2 with h | h
  · rw [lift_of_lt h]
  · rw [lift_of_le h]

theorem add_of_breaks_eq_false {s : State} (h : s.breaks = false) (k : Sketch) :
    k.add s = k.addVertex s.vertex := by
  obtain ⟨shape, heading, penDown, color⟩ := s
  cases shape with
  | rect r => simp [State.breaks, State.isRect] at h
  | point p =>
    obtain rfl : penDown = true := by simpa [State.breaks, State.isRect] using h
    rfl

/-- `add` of a state that `breaks` the strip lifts it and adds the primitive of the `gap`, if there
is one. -/
theorem add_of_breaks {s : State} (h : s.breaks = true) (k : Sketch) :
    k.add s = ⟨(Stretch.gap s).primitive?.toList ++ k.lift.finished, []⟩ := by
  obtain ⟨shape, heading, penDown, color⟩ := s
  have hk : k.lift = ⟨k.lift.finished, []⟩ := by rw [← strip_lift k]
  cases shape with
  | rect r =>
    rw [add]
    conv_lhs => rw [hk]
    rfl
  | point p =>
    obtain rfl : penDown = false := by simpa [State.breaks, State.isRect] using h
    exact hk

/-- `add` of states that leave the strip unbroken adds their vertices to it. -/
theorem foldl_add_run {ss : List State} (h : ∀ s ∈ ss, s.breaks = false) (k : Sketch) :
    ss.foldl add k = { k with strip := (ss.map State.vertex).reverse ++ k.strip } := by
  induction ss generalizing k with
  | nil => rfl
  | cons s ss ih =>
    obtain ⟨hs, hss⟩ := List.forall_mem_cons.1 h
    rw [List.foldl_cons, add_of_breaks_eq_false hs, ih hss]
    simp [addVertex]

/-- `lift` finishes the strip of a `run` as the primitive of the run. -/
theorem lift_run (finished : List Primitive) (ss : List State) :
    lift ⟨finished, (ss.map State.vertex).reverse⟩ =
      ⟨(Stretch.run ss).primitive?.toList ++ finished, []⟩ := by
  rw [Stretch.primitive?]
  split
  · rename_i h
    rw [lift_of_le (by simpa using h)]
    simp
  · rename_i h
    rw [lift_of_lt (by simpa using h)]
    rfl

/-- A `lift` changes nothing if the next state `breaks` the strip anyway, or no state is left. -/
theorem primitives_foldl_lift {history : List State} (h : ∀ s ∈ history.head?, s.breaks = true)
    (k : Sketch) : (history.foldl add k.lift).primitives = (history.foldl add k).primitives := by
  cases history with
  | nil => simp only [List.foldl_nil, primitives, lift_of_nil (strip_lift k)]
  | cons s history =>
    have hs := h s rfl
    rw [List.foldl_cons, List.foldl_cons, add_of_breaks hs, add_of_breaks hs,
      lift_of_nil (strip_lift k)]

/-- The states of `history` add the primitives of the pieces in `cut`, in order. -/
theorem primitives_foldl {history : List State} {cut : List Stretch} (h : IsCut history cut)
    {k : Sketch} (hk : k.strip = []) :
    (history.foldl add k).primitives = k.finished.reverse ++ cut.filterMap Stretch.primitive? := by
  induction cut generalizing history k with
  | nil =>
    obtain rfl : history = [] := h.whole.symm
    simp [primitives, lift_of_nil hk]
  | cons p cut ih =>
    rw [← h.whole]
    cases p with
    | gap s =>
      have hs := h.gap s List.mem_cons_self
      rw [List.flatMap_cons, Stretch.states, List.singleton_append, List.foldl_cons,
        add_of_breaks hs, ih h.tail rfl, lift_of_nil hk, List.filterMap_cons]
      cases (Stretch.gap s).primitive? <;> simp
    | run ss =>
      have hs := (h.run ss List.mem_cons_self).2
      rw [List.flatMap_cons, Stretch.states, List.foldl_append, foldl_add_run hs, hk,
        List.append_nil, ← primitives_foldl_lift h.breaks_of_head?, lift_run, ih h.tail rfl,
        List.filterMap_cons]
      cases (Stretch.run ss).primitive? <;> simp

end Sketch

theorem primitives_render {history : List State} {cut : List Stretch} (h : IsCut history cut)
    (background : Color) :
    (render history background).primitives = cut.filterMap Stretch.primitive? :=
  Sketch.primitives_foldl h rfl

/-! ## The segments -/

/-- The segments that a `Primitive.strip` draws. -/
def Primitive.segments : Primitive → List (Vertex × Vertex)
  | .strip vertices => vertices.zip vertices.tail
  | .quad .. => []

/-- The segment between the neighbors `s` and `t` in a history, if both leave the strip unbroken. -/
def State.segment? (s t : State) : Option (Vertex × Vertex) :=
  if s.breaks || t.breaks then none else some (s.vertex, t.vertex)

/-- The `State.segment?` of all neighbors in `history`, in order. -/
def neighborSegments (history : List State) : List (Vertex × Vertex) :=
  (history.zip history.tail).filterMap fun p => p.1.segment? p.2

theorem neighborSegments_cons (s : State) (history : List State) :
    neighborSegments (s :: history) =
      (history.head?.bind s.segment?).toList ++ neighborSegments history := by
  cases history with
  | nil => rfl
  | cons t history =>
    simp only [neighborSegments, List.tail_cons, List.zip_cons_cons, List.filterMap_cons,
      List.head?_cons, Option.bind_some]
    cases s.segment? t <;> rfl

theorem neighborSegments_cons_of_breaks {s : State} (hs : s.breaks = true)
    (history : List State) : neighborSegments (s :: history) = neighborSegments history := by
  have hn : s.segment? = fun _ => none := by
    funext t
    simp [State.segment?, hs]
  rw [neighborSegments_cons, hn]
  cases history <;> rfl

/-- The run `ss` gives the segments of its strip, and none to what follows it. -/
theorem neighborSegments_run {ss rest : List State} (hs : ∀ s ∈ ss, s.breaks = false)
    (hr : ∀ s ∈ rest.head?, s.breaks = true) :
    neighborSegments (ss ++ rest) =
      (ss.map State.vertex).zip (ss.map State.vertex).tail ++ neighborSegments rest := by
  induction ss with
  | nil => rfl
  | cons s ss ih =>
    obtain ⟨hb, hs⟩ := List.forall_mem_cons.1 hs
    rw [List.cons_append, neighborSegments_cons, ih hs]
    cases ss with
    | nil =>
      have hn : rest.head?.bind s.segment? = none := by
        cases rest with
        | nil => rfl
        | cons t rest => simp [State.segment?, hr t rfl]
      simp [hn]
    | cons t ss =>
      have ht := hs t List.mem_cons_self
      simp [State.segment?, hb, ht]

theorem segments_cut {history : List State} {cut : List Stretch} (h : IsCut history cut) :
    (cut.filterMap Stretch.primitive?).flatMap Primitive.segments = neighborSegments history := by
  induction cut generalizing history with
  | nil =>
    obtain rfl : history = [] := h.whole.symm
    rfl
  | cons p cut ih =>
    rw [← h.whole, List.flatMap_cons, List.filterMap_cons]
    cases p with
    | gap s =>
      have hs := h.gap s List.mem_cons_self
      rw [Stretch.states, List.singleton_append, neighborSegments_cons_of_breaks hs, ← ih h.tail,
        Stretch.primitive?]
      cases s.shape <;> rfl
    | run ss =>
      rw [Stretch.states,
        neighborSegments_run (h.run ss List.mem_cons_self).2 h.breaks_of_head?, ← ih h.tail,
        Stretch.primitive?]
      split
      · rename_i hp
        split at hp
        · simp at hp
        · -- a run of one state has no segment
          match ss with
          | [] => rfl
          | [s] => rfl
          | s :: t :: ss => simp at *
      · rename_i hp
        split at hp
        · cases hp
          rfl
        · simp at hp

/-! ## The sources -/

/-- A primitive is drawn from these states: a strip from all of a run, and a quad from its
rectangle. -/
inductive Primitive.DrawnFrom : List State → Primitive → Prop
  | strip (ss : List State) (unbroken : ∀ s ∈ ss, s.breaks = false) (two : 2 ≤ ss.length) :
    DrawnFrom ss (.strip (ss.map State.vertex))
  | quad (s : State) (r : Rect) (shape : s.shape = .rect r) :
    DrawnFrom [s] (.quad r.corners s.color)

theorem IsCut.drawnFrom {history : List State} {cut : List Stretch} (h : IsCut history cut)
    {p : Stretch} (hp : p ∈ cut) {q : Primitive} (hq : p.primitive? = some q) :
    q.DrawnFrom p.states := by
  cases p with
  | run ss =>
    rw [Stretch.primitive?] at hq
    split at hq
    · rename_i h2
      cases hq
      exact .strip ss (h.run ss hp).2 h2
    · cases hq
  | gap s =>
    rw [Stretch.primitive?] at hq
    split at hq
    · rename_i r hr
      cases hq
      exact .quad s r hr
    · cases hq

/-- The primitives of the pieces in `cut` are `DrawnFrom` parts of `history` that follow one
another. -/
theorem exists_sources {history : List State} {cut : List Stretch} (h : IsCut history cut) :
    ∃ parts : List (List State), parts.flatten.Sublist history ∧
      List.Forall₂ Primitive.DrawnFrom parts (cut.filterMap Stretch.primitive?) := by
  induction cut generalizing history with
  | nil => exact ⟨[], List.nil_sublist _, .nil⟩
  | cons p cut ih =>
    obtain ⟨parts, hs, hd⟩ := ih h.tail
    rw [← h.whole, List.flatMap_cons, List.filterMap_cons]
    cases hp : p.primitive? with
    | none => exact ⟨parts, hs.trans (List.sublist_append_right ..), hd⟩
    | some q =>
      exact ⟨p.states :: parts, (List.Sublist.refl _).append hs,
        .cons (h.drawnFrom List.mem_cons_self hp) hd⟩

/-- `render history` has the primitives of the pieces in the one `cut` of `history`, in order. Their
segments are those of `neighborSegments`, and they are `DrawnFrom` disjoint parts of `history`. -/
theorem render_eq_cut (history : List State) (background : Color) :
    ∃ cut, IsCut history cut ∧ (∀ cut', IsCut history cut' → cut' = cut) ∧
      render history background = ⟨background, cut.filterMap Stretch.primitive?⟩ ∧
      (render history background).primitives.flatMap Primitive.segments =
        neighborSegments history ∧
      ∃ parts : List (List State), parts.flatten.Sublist history ∧
        List.Forall₂ Primitive.DrawnFrom parts (render history background).primitives := by
  obtain ⟨cut, h⟩ := exists_cut history
  have hr := primitives_render h background
  refine ⟨cut, h, fun cut' h' => h.unique h', ?_, ?_, ?_⟩
  · rw [← hr]
    rfl
  · rw [hr, segments_cut h]
  · rw [hr]
    exact exists_sources h

end TurtleGraphics
