import TurtleGraphics.Window

/-!
# Blocks of instructions

The instructions for a frame are one *block*: a `clear`, then strips and quads, then a `present`.
Nothing else marks where a block ends, and still the frames can be read off a stream of blocks:

* `IsBlock.exists_frame`, `isBlock_paints`: the blocks are the instructions for some frame;
* `IsBlock.append_inj`: no block can be taken for the beginning of another one;
* `shows_flatMap_paints`: the instructions for frames split into blocks in exactly one way, and
  these blocks paint the frames.
-/

namespace TurtleGraphics

/-- The `Primitive` that a `Paint` paints. -/
def Paint.primitive? : Paint → Option Primitive
  | .strip vertices => some (.strip vertices)
  | .quad corners color => some (.quad corners color)
  | .clear _ | .present => none

/-- One `clear`, then strips and quads only, then one `present`. -/
def IsBlock (ps : List Paint) : Prop :=
  ∃ color body, ps = .clear color :: (body ++ [.present]) ∧
    ∀ p ∈ body, p.primitive?.isSome = true

/-- The `Frame` that a block paints. -/
def blockFrame : List Paint → Option Frame
  | .clear color :: ps => some ⟨color, ps.filterMap Paint.primitive?⟩
  | _ => none

/-- `sent` is the instructions of `blocks`, block by block. -/
def IsSplit (sent : List Paint) (blocks : List (List Paint)) : Prop :=
  blocks.flatten = sent ∧ ∀ b ∈ blocks, IsBlock b

/-- `sent` splits into blocks in exactly one way, and they paint `frames` in order. -/
def Shows (sent : List Paint) (frames : List Frame) : Prop :=
  ∃ blocks, IsSplit sent blocks ∧ (∀ blocks', IsSplit sent blocks' → blocks' = blocks) ∧
    blocks.map blockFrame = frames.map some

/-! ## One block -/

@[simp] theorem primitive?_paint (q : Primitive) : q.paint.primitive? = some q := by
  cases q <;> rfl

/-- `paint` inverts `primitive?`. -/
theorem paint_of_primitive? {p : Paint} {q : Primitive} (h : p.primitive? = some q) :
    q.paint = p := by
  cases p <;> cases h <;> rfl

theorem filterMap_primitive?_map_paint (qs : List Primitive) :
    (qs.map Primitive.paint).filterMap Paint.primitive? = qs := by
  have h : Paint.primitive? ∘ Primitive.paint = some := funext primitive?_paint
  rw [List.filterMap_map, h, List.filterMap_some]

theorem isBlock_paints (f : Frame) : IsBlock f.paints := by
  refine ⟨f.background, f.primitives.map Primitive.paint, rfl, fun p hp => ?_⟩
  obtain ⟨q, -, rfl⟩ := List.mem_map.1 hp
  rw [primitive?_paint, Option.isSome_some]

theorem blockFrame_paints (f : Frame) : blockFrame f.paints = some f := by
  have h : (f.primitives.map Primitive.paint ++ [Paint.present]).filterMap Paint.primitive? =
      f.primitives := by
    rw [List.filterMap_append, filterMap_primitive?_map_paint]
    exact List.append_nil _
  rw [Frame.paints, List.cons_append, blockFrame, h]

/-- The instructions `body` are those for their primitives. -/
theorem map_paint_filterMap {body : List Paint} (h : ∀ p ∈ body, p.primitive?.isSome = true) :
    (body.filterMap Paint.primitive?).map Primitive.paint = body := by
  induction body with
  | nil => rfl
  | cons p body ih =>
    obtain ⟨hp, hb⟩ := List.forall_mem_cons.1 h
    obtain ⟨q, hq⟩ := Option.isSome_iff_exists.1 hp
    rw [List.filterMap_cons_some hq, List.map_cons, paint_of_primitive? hq, ih hb]

namespace IsBlock

variable {b b' : List Paint}

/-- Every block is the `paints` of a frame. -/
theorem exists_frame (h : IsBlock b) : ∃ f : Frame, f.paints = b := by
  obtain ⟨color, body, rfl, hb⟩ := h
  refine ⟨⟨color, body.filterMap Paint.primitive?⟩, ?_⟩
  rw [Frame.paints, map_paint_filterMap hb, List.cons_append]

/-- The first `.present` ends a block, so a stream begins with one block at most. -/
theorem append_inj (h : IsBlock b) (h' : IsBlock b') {xs ys : List Paint}
    (he : b ++ xs = b' ++ ys) : b = b' ∧ xs = ys := by
  obtain ⟨color, body, rfl, hb⟩ := h
  obtain ⟨color', body', rfl, hb'⟩ := h'
  have body_eq {body xs} (hb : ∀ p ∈ body, p.primitive?.isSome = true) :
      (body ++ Paint.present :: xs).takeWhile (fun p => p.primitive?.isSome) = body := by
    rw [List.takeWhile_append_of_pos hb]
    exact List.append_nil body
  have hs : color = color' ∧ body ++ Paint.present :: xs = body' ++ Paint.present :: ys := by
    simpa using he
  obtain ⟨rfl, hs⟩ := hs
  obtain rfl : body = body' := by rw [← body_eq hb, hs, body_eq hb']
  have ht : Paint.present :: xs = Paint.present :: ys := List.append_cancel_left hs
  exact ⟨rfl, (List.cons_eq_cons.1 ht).2⟩

theorem ne_nil (h : IsBlock b) : b ≠ [] := by
  obtain ⟨color, body, rfl, -⟩ := h
  exact List.cons_ne_nil _ _

end IsBlock

/-! ## Many blocks -/

theorem IsSplit.unique {sent : List Paint} {blocks blocks' : List (List Paint)}
    (h : IsSplit sent blocks) (h' : IsSplit sent blocks') : blocks' = blocks := by
  induction blocks generalizing sent blocks' with
  | nil =>
    obtain ⟨rfl, -⟩ := h
    obtain ⟨he, hb⟩ := h'
    cases blocks' with
    | nil => rfl
    | cons b' blocks' =>
      have hn : b' = [] := (List.append_eq_nil_iff.1 he).1
      exact absurd hn (hb b' List.mem_cons_self).ne_nil
  | cons b blocks ih =>
    obtain ⟨rfl, hb⟩ := h
    obtain ⟨he, hb'⟩ := h'
    obtain ⟨hbb, hbs⟩ := List.forall_mem_cons.1 hb
    cases blocks' with
    | nil =>
      have hn : b = [] := (List.append_eq_nil_iff.1 he.symm).1
      exact absurd hn hbb.ne_nil
    | cons b' blocks' =>
      obtain ⟨hbb', hbs'⟩ := List.forall_mem_cons.1 hb'
      obtain ⟨rfl, ht⟩ := hbb'.append_inj hbb he
      rw [ih ⟨rfl, hbs⟩ ⟨ht, hbs'⟩]

/-- `Shows` holds of the instructions that paint `frames`. -/
theorem shows_flatMap_paints (frames : List Frame) :
    Shows (frames.flatMap Frame.paints) frames := by
  have hs : IsSplit (frames.flatMap Frame.paints) (frames.map Frame.paints) := by
    refine ⟨rfl, fun b hb => ?_⟩
    obtain ⟨f, -, rfl⟩ := List.mem_map.1 hb
    exact isBlock_paints f
  refine ⟨frames.map Frame.paints, hs, fun blocks' h' => hs.unique h', ?_⟩
  rw [List.map_map]
  exact List.map_congr_left fun f _ => blockFrame_paints f

end TurtleGraphics
