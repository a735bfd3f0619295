import Mathlib.Data.List.Forall2
import Mathlib.Logic.Relation
import TurtleGraphics.Proofs.Text.Lines

/-!
# Line ends

The same lines can be ended in different ways: with a carriage return in front of the newline or
without, and with an end behind the last line or none. `SameUpToEnds` relates the texts that can be
changed into each other in this way, step by step.

* `cutLines_of_carriageReturn`, `cutLines_append_newline`: what one such step does to the lines;
* `sameUpToEnds_rejoin`: to cut a text into lines and to join them again is no more than this;
* `standsAt_of_getElem?`: line `i` stands behind `i` newlines.
-/

namespace TurtleGraphics.Text

section

variable {α : Type} {nl cr : α}

/-- One change of a line end, where `nl` is the newline and `cr` the carriage return. -/
inductive EndChange (nl cr : α) : List α → List α → Prop where
  /-- A newline gets a `cr` in front of it, perhaps one more. -/
  | carriageReturn (xs ys : List α) : EndChange nl cr (xs ++ nl :: ys) (xs ++ cr :: nl :: ys)
  /-- The sequence gets an `nl` at its end. -/
  | final (xs : List α) : EndChange nl cr xs (xs ++ [nl])

/-- `l'` is `l`, perhaps with a `cr` behind it. -/
def Returned (cr : α) (l l' : List α) : Prop :=
  l' = l ∨ l' = l ++ [cr]

theorem Returned.cons {l l' : List α} (h : Returned cr l l') (c : α) :
    Returned cr (c :: l) (c :: l') := by
  obtain rfl | rfl := h
  · exact .inl rfl
  · exact .inr rfl

theorem forall₂_returned_refl (ls : List (List α)) : List.Forall₂ (Returned cr) ls ls :=
  List.forall₂_same.2 fun _ _ => .inl rfl

/-- `Returned` lines stay so with `c` in front of the first. -/
theorem forall₂_returned_cons {ls ls' : List (List α)} (h : List.Forall₂ (Returned cr) ls ls')
    (c : α) :
    List.Forall₂ (Returned cr) ((c :: ls.headD []) :: ls.tail)
      ((c :: ls'.headD []) :: ls'.tail) := by
  cases h with
  | nil => exact forall₂_returned_refl _
  | cons hl hr => exact .cons (hl.cons c) hr

theorem EndChange.cons {xs ys : List α} (h : EndChange nl cr xs ys) (c : α) :
    EndChange nl cr (c :: xs) (c :: ys) := by
  cases h with
  | carriageReturn front back => exact .carriageReturn (c :: front) back
  | final => exact .final (c :: xs)

theorem eqvGen_cons {xs ys : List α} (h : Relation.EqvGen (EndChange nl cr) xs ys) (c : α) :
    Relation.EqvGen (EndChange nl cr) (c :: xs) (c :: ys) := by
  induction h with
  | rel _ _ h => exact .rel _ _ (h.cons c)
  | refl => exact .refl _
  | symm _ _ _ ih => exact .symm _ _ ih
  | trans _ _ _ _ _ ih₁ ih₂ => exact .trans _ _ _ ih₁ ih₂

theorem flatMap_eq_intercalate_append (nl : α) {ls : List (List α)} (h : ls ≠ []) :
    ls.flatMap (· ++ [nl]) = [nl].intercalate ls ++ [nl] := by
  induction ls with
  | nil => exact absurd rfl h
  | cons l ls ih =>
    cases ls with
    | nil => simp
    | cons l' ls =>
      rw [List.flatMap_cons, ih (by simp), List.intercalate_cons_cons]
      simp

theorem eq_nil_of_head?_append {c : α} {xs ys : List α} (h : (xs ++ ys).head? = some c)
    (hx : xs.head? ≠ some c) : xs = [] := by
  cases xs with
  | nil => rfl
  | cons d xs => exact absurd (by simpa using h) hx

variable [DecidableEq α]

/-! ## One change -/

/-- `cutLines` drops the `cr` in front of `nl`, or it goes to the end of the line if another one was
dropped there. -/
theorem cutLines_of_carriageReturn (hne : cr ≠ nl) (xs ys : List α) :
    List.Forall₂ (Returned cr) (cutLines nl cr (xs ++ nl :: ys))
      (cutLines nl cr (xs ++ cr :: nl :: ys)) := by
  induction xs using line_induction nl cr with
  | nil =>
    rw [List.nil_append, List.nil_append, cutLines_carriageReturn hne rfl]
    exact forall₂_returned_refl _
  | newline xs ih =>
    rw [List.cons_append, List.cons_append, cutLines_newline, cutLines_newline]
    exact .cons (.inl rfl) ih
  | dropped xs _ ih =>
    rwa [List.cons_append, List.cons_append, List.cons_append, List.cons_append,
      cutLines_carriageReturn hne rfl, cutLines_carriageReturn hne rfl]
  | kept c xs hc hr ih =>
    rw [List.cons_append, List.cons_append]
    have hx' : ¬ (c = cr ∧ (xs ++ cr :: nl :: ys).head? = some nl) := by
      cases xs <;> simp_all
    by_cases hx : c = cr ∧ (xs ++ nl :: ys).head? = some nl
    · -- the newline is the next character, and the other carriage return is the one dropped
      obtain ⟨rfl, hx⟩ := hx
      obtain rfl := eq_nil_of_head?_append hx fun h => hr ⟨rfl, h⟩
      rw [List.nil_append] at hx'
      rw [List.nil_append, List.nil_append, cutLines_carriageReturn hne rfl,
        cutLines_cons hne hx', cutLines_carriageReturn hne rfl, cutLines_newline]
      exact .cons (.inr rfl) (forall₂_returned_refl _)
    · rw [cutLines_cons hc hx, cutLines_cons hc hx']
      exact forall₂_returned_cons ih c

/-- An `nl` at the end gives one more line, which is empty, or ends the last one. -/
theorem cutLines_append_newline (hne : cr ≠ nl) (xs : List α) :
    cutLines nl cr (xs ++ [nl]) = cutLines nl cr xs ++ [[]] ∨
      List.Forall₂ (Returned cr) (cutLines nl cr (xs ++ [nl])) (cutLines nl cr xs) := by
  induction xs using line_induction nl cr with
  | nil => exact .inl (by simp)
  | newline xs ih =>
    rw [List.cons_append, cutLines_newline, cutLines_newline]
    exact ih.imp (fun h => by rw [h, List.cons_append]) (.cons (.inl rfl))
  | dropped xs _ ih =>
    rwa [List.cons_append, List.cons_append, cutLines_carriageReturn hne rfl,
      cutLines_carriageReturn hne rfl]
  | kept c xs hc hr ih =>
    rw [List.cons_append, cutLines_cons hc hr]
    by_cases hx : c = cr ∧ (xs ++ [nl]).head? = some nl
    · -- the last line was this carriage return alone
      obtain ⟨rfl, hx⟩ := hx
      obtain rfl := eq_nil_of_head?_append hx fun h => hr ⟨rfl, h⟩
      rw [List.nil_append, cutLines_carriageReturn hne rfl, cutLines_newline]
      exact .inr (.cons (.inr rfl) .nil)
    rw [cutLines_cons hc hx]
    obtain h | h := ih
    · rw [h]
      cases cutLines nl cr xs with
      | nil => exact .inr (forall₂_returned_refl _)
      | cons l ls => exact .inl rfl
    · exact .inr (forall₂_returned_cons h c)

/-! ## Joining the lines -/

theorem eqvGen_flatMap_cutLines (nl cr : α) (cs : List α) :
    Relation.EqvGen (EndChange nl cr) cs ((cutLines nl cr cs).flatMap (· ++ [nl])) := by
  induction cs using line_induction nl cr with
  | nil => exact .refl _
  | newline cs ih =>
    rw [cutLines_newline]
    exact eqvGen_cons ih nl
  | dropped cs hne ih =>
    rw [cutLines_carriageReturn hne rfl]
    exact .trans _ _ _ (.symm _ _ (.rel _ _ (.carriageReturn [] cs))) ih
  | kept c cs hc hr ih =>
    rw [cutLines_cons hc hr]
    have hcons := eqvGen_cons ih c
    cases hl : cutLines nl cr cs with
    | nil =>
      rw [hl] at hcons
      exact .trans _ _ _ hcons (.rel _ _ (.final [c]))
    | cons l ls => simpa [hl] using hcons

theorem eqvGen_intercalate_cutLines (nl cr : α) (cs : List α) :
    Relation.EqvGen (EndChange nl cr) cs ([nl].intercalate (cutLines nl cr cs)) := by
  have h := eqvGen_flatMap_cutLines nl cr cs
  by_cases hl : cutLines nl cr cs = []
  · rwa [hl] at h ⊢
  · rw [flatMap_eq_intercalate_append nl hl] at h
    exact .trans _ _ _ h (.symm _ _ (.rel _ _ (.final _)))

/-! ## Where a line stands -/

/-- `l` stands in `cs` as line `i`: it has no `nl` in it, `i` of them are in front of it, the last
one right in front, and behind it is the end of `cs` or of the line. -/
def StandsAt (nl cr : α) (cs l : List α) (i : Nat) : Prop :=
  nl ∉ l ∧ ∃ front back, cs = front ++ l ++ back ∧
    front.count nl = i ∧ (∀ c ∈ front.getLast?, c = nl) ∧
    (back = [] ∨ back.head? = some nl ∨ ∃ ys, back = cr :: nl :: ys)

theorem eq_nil_of_cutLines_eq_nil {cs : List α} (h : cutLines nl cr cs = []) : cs = [] := by
  induction cs using line_induction nl cr with
  | nil => rfl
  | newline cs => simp at h
  | dropped cs hne ih =>
    rw [cutLines_carriageReturn hne rfl] at h
    cases ih h
  | kept c cs hc hr => simp [cutLines_cons hc hr] at h

theorem StandsAt.newline_cons {cs l : List α} {i : Nat} (h : StandsAt nl cr cs l i) :
    StandsAt nl cr (nl :: cs) l (i + 1) := by
  obtain ⟨hl, front, back, rfl, rfl, hlast, hback⟩ := h
  refine ⟨hl, nl :: front, back, rfl, by simp, ?_, hback⟩
  cases front with
  | nil => simp
  | cons c front => simpa using hlast

/-- A character `c` other than `nl` in front moves every line but the first, and keeps its
number. -/
theorem StandsAt.cons {cs l : List α} {i : Nat} (h : StandsAt nl cr cs l (i + 1)) {c : α}
    (hc : c ≠ nl) : StandsAt nl cr (c :: cs) l (i + 1) := by
  obtain ⟨hl, front, back, rfl, hcount, hlast, hback⟩ := h
  cases front with
  | nil => simp at hcount
  | cons d front =>
    exact ⟨hl, c :: d :: front, back, rfl, by rwa [List.count_cons_of_ne hc],
      by simpa using hlast, hback⟩

theorem StandsAt.exists_eq_append {cs l : List α} (h : StandsAt nl cr cs l 0) :
    ∃ back, cs = l ++ back ∧ (back = [] ∨ back.head? = some nl ∨ ∃ ys, back = cr :: nl :: ys) := by
  obtain ⟨-, front, back, rfl, hcount, hlast, hback⟩ := h
  obtain rfl : front = [] := by
    by_contra hf
    have hmem : front.getLast hf = nl := hlast _ (List.getLast?_eq_some_getLast hf)
    exact List.count_eq_zero.1 hcount (hmem ▸ List.getLast_mem hf)
  exact ⟨back, rfl, hback⟩

theorem standsAt_of_getElem? {cs l : List α} {i : Nat}
    (h : (cutLines nl cr cs)[i]? = some l) : StandsAt nl cr cs l i := by
  induction cs using line_induction nl cr generalizing i l with
  | nil => simp at h
  | newline cs ih =>
    rw [cutLines_newline] at h
    cases i with
    | zero =>
      obtain rfl : [] = l := by simpa using h
      exact ⟨by simp, [], nl :: cs, rfl, rfl, by simp, .inr (.inl rfl)⟩
    | succ i => exact (ih h).newline_cons
  | dropped cs hne ih =>
    rw [cutLines_carriageReturn hne rfl] at h
    cases i with
    | zero =>
      obtain rfl : [] = l := by simpa using h
      exact ⟨by simp, [], cr :: nl :: cs, rfl, rfl, by simp, .inr (.inr ⟨cs, rfl⟩)⟩
    | succ i => exact (ih h).cons hne
  | kept c cs hc hr ih =>
    rw [cutLines_cons hc hr] at h
    cases i with
    | succ i =>
      rw [List.getElem?_cons_succ, List.getElem?_tail] at h
      exact (ih h).cons hc
    | zero =>
      cases hl : cutLines nl cr cs with
      | nil =>
        obtain rfl := eq_nil_of_cutLines_eq_nil hl
        obtain rfl : [c] = l := by simpa [hl] using h
        exact ⟨by simpa using Ne.symm hc, [], [], rfl, rfl, by simp, .inl rfl⟩
      | cons first rest =>
        obtain rfl : c :: first = l := by simpa [hl] using h
        have hs : StandsAt nl cr cs first 0 := ih (by rw [hl, List.getElem?_cons_zero])
        obtain ⟨back, rfl, hback⟩ := hs.exists_eq_append
        exact ⟨by simpa [Ne.symm hc] using hs.1, [], back, rfl, rfl, by simp, hback⟩

end

/-- `text` and `other` have the same lines, perhaps ended in different ways: an `EndChange` at a
time leads from one to the other. -/
def SameUpToEnds (text other : String) : Prop :=
  Relation.EqvGen (EndChange '\n' '\r') text.toList other.toList

example : SameUpToEnds "fw 1\r\npu" "fw 1\npu\n" :=
  .trans _ _ _ (.symm _ _ (.rel _ _ (.carriageReturn "fw 1".toList "pu".toList)))
    (.rel _ _ (.final "fw 1\npu".toList))

theorem sameUpToEnds_rejoin (text : String) :
    SameUpToEnds text ("\n".intercalate (lines text)) := by
  have hl : (lines text).map String.toList = cutLines '\n' '\r' text.toList := by
    simp [lines]
  rw [SameUpToEnds, String.toList_intercalate, hl]
  exact eqvGen_intercalate_cutLines _ _ _

theorem standsAt_of_getElem?_lines {text line : String} {i : Nat}
    (h : (lines text)[i]? = some line) :
    StandsAt '\n' '\r' text.toList line.toList i := by
  rw [lines, List.getElem?_map, Option.map_eq_some_iff] at h
  obtain ⟨l, hl, rfl⟩ := h
  simpa using standsAt_of_getElem? hl

end TurtleGraphics.Text
