import TurtleGraphics.Text.Lines

/-!
# Texts with given lines

No line of a text has a newline in it, and nothing else restricts what the lines of a text can be:
a text is written for any such lines (`exists_lines_eq`), and a text can be cut behind any of its
lines (`exists_front`).
-/

namespace TurtleGraphics.Text

section

variable {α : Type} [DecidableEq α] {nl cr : α}

theorem cutLines_carriageReturn (hne : cr ≠ nl) {cs : List α} (h : cs.head? = some nl) :
    cutLines nl cr (cr :: cs) = cutLines nl cr cs := by
  simp [cutLines, hne, h]

/-- A character `c` other than `nl` goes to the first line, unless it is the `cr` that is dropped in
front of `nl`. -/
theorem cutLines_cons {c : α} {cs : List α} (hc : c ≠ nl) (h : ¬ (c = cr ∧ cs.head? = some nl)) :
    cutLines nl cr (c :: cs) =
      (c :: (cutLines nl cr cs).headD []) :: (cutLines nl cr cs).tail := by
  rw [cutLines, if_neg hc, if_neg h]
  cases cutLines nl cr cs <;> rfl

/-- Induction on `cs` in the way in which `cutLines` goes: a character ends a line, is dropped in
front of an end, or goes to the first line. -/
@[elab_as_elim]
theorem line_induction (nl cr : α) {motive : List α → Prop} (nil : motive [])
    (newline : ∀ cs, motive cs → motive (nl :: cs))
    (dropped : ∀ cs, cr ≠ nl → motive (nl :: cs) → motive (cr :: nl :: cs))
    (kept : ∀ c cs, c ≠ nl → ¬ (c = cr ∧ cs.head? = some nl) → motive cs → motive (c :: cs))
    (cs : List α) : motive cs := by
  induction cs with
  | nil => exact nil
  | cons c cs ih =>
    by_cases hc : c = nl
    · exact hc ▸ newline cs ih
    by_cases hr : c = cr ∧ cs.head? = some nl
    · obtain ⟨rfl, hr⟩ := hr
      obtain ⟨ys, rfl⟩ := List.head?_eq_some_iff.1 hr
      exact dropped ys hc ih
    · exact kept c cs hc hr ih

theorem not_mem_of_mem_cutLines {cs l : List α} (h : l ∈ cutLines nl cr cs) : nl ∉ l := by
  induction cs generalizing l with
  | nil => simp at h
  | cons c cs ih =>
    by_cases hc : c = nl
    · subst hc
      rw [cutLines_newline] at h
      obtain rfl | h := List.mem_cons.1 h
      · simp
      · exact ih h
    by_cases hr : c = cr ∧ cs.head? = some nl
    · obtain ⟨rfl, hr⟩ := hr
      rw [cutLines_carriageReturn hc hr] at h
      exact ih h
    rw [cutLines_cons hc hr] at h
    cases hl : cutLines nl cr cs with
    | nil =>
      rw [hl] at h
      obtain rfl : l = [c] := by simpa using h
      simpa using Ne.symm hc
    | cons first rest =>
      rw [hl] at h ih
      obtain rfl | h := List.mem_cons.1 h
      · simpa [Ne.symm hc] using ih List.mem_cons_self
      · exact ih (List.mem_cons_of_mem _ h)

/-- Characters `l` without `nl` go to the first line, unless the last of them is a `cr` in front of
`nl`. -/
theorem cutLines_append_left {l cs : List α} (hne : l ≠ []) (hl : nl ∉ l)
    (hr : l.getLast? = some cr → cs.head? ≠ some nl) :
    cutLines nl cr (l ++ cs) =
      (l ++ (cutLines nl cr cs).headD []) :: (cutLines nl cr cs).tail := by
  induction l with
  | nil => exact absurd rfl hne
  | cons c l ih =>
    obtain ⟨hc, hl⟩ : nl ≠ c ∧ nl ∉ l := by simpa using hl
    cases l with
    | nil =>
      have hr : ¬ (c = cr ∧ cs.head? = some nl) := fun h => hr (h.1 ▸ rfl) h.2
      exact cutLines_cons (Ne.symm hc) hr
    | cons d l =>
      have hd : ¬ (c = cr ∧ (d :: l ++ cs).head? = some nl) := fun h =>
        hl (Option.some.inj h.2 ▸ List.mem_cons_self)
      rw [List.cons_append, cutLines_cons (Ne.symm hc) hd, ih (by simp) hl hr]
      rfl

/-- Without `nl` there is one line. -/
theorem cutLines_of_not_mem (cr : α) {l : List α} (hne : l ≠ []) (hl : nl ∉ l) :
    cutLines nl cr l = [l] := by
  have h : cutLines nl cr (l ++ []) = [l ++ []] := cutLines_append_left hne hl (by simp)
  rwa [List.append_nil] at h

/-- A line `l` without `nl`, with `cr` and `nl` behind it. The line keeps a `cr` of its own, since
only one is dropped. -/
theorem cutLines_append (hne : cr ≠ nl) {l : List α} (h : nl ∉ l) (cs : List α) :
    cutLines nl cr (l ++ cr :: nl :: cs) = l :: cutLines nl cr cs := by
  have hend : cutLines nl cr (cr :: nl :: cs) = [] :: cutLines nl cr cs := by
    rw [cutLines_carriageReturn hne rfl, cutLines_newline]
  by_cases hl : l = []
  · rw [hl, List.nil_append, hend]
  · have hr : (cr :: nl :: cs).head? ≠ some nl := fun hh => hne (Option.some.inj hh)
    rw [cutLines_append_left hl h fun _ => hr, hend]
    simp

/-- The same with `nl` alone. -/
theorem cutLines_append_cons {l : List α} (h : nl ∉ l) (hr : l.getLast? ≠ some cr) (cs : List α) :
    cutLines nl cr (l ++ nl :: cs) = l :: cutLines nl cr cs := by
  by_cases hl : l = []
  · rw [hl, List.nil_append, cutLines_newline]
  · rw [cutLines_append_left hl h fun hc => absurd hc hr, cutLines_newline]
    simp

theorem cutLines_flatMap (hne : cr ≠ nl) {ls : List (List α)} (h : ∀ l ∈ ls, nl ∉ l) :
    cutLines nl cr (ls.flatMap (· ++ [cr, nl])) = ls := by
  induction ls with
  | nil => rfl
  | cons l ls ih =>
    obtain ⟨hl, hls⟩ := List.forall_mem_cons.1 h
    rw [List.flatMap_cons, List.append_assoc, List.cons_append, List.cons_append, List.nil_append,
      cutLines_append hne hl, ih hls]

theorem exists_cutLines_eq_take (nl cr : α) (cs : List α) (n : Nat) :
    ∃ xs ys, cs = xs ++ ys ∧ cutLines nl cr xs = (cutLines nl cr cs).take n := by
  induction cs generalizing n with
  | nil => exact ⟨[], [], rfl, by simp⟩
  | cons c cs ih =>
    cases n with
    | zero => exact ⟨[], c :: cs, rfl, by simp⟩
    | succ n =>
      by_cases hc : c = nl
      · obtain ⟨xs, ys, rfl, hx⟩ := ih n
        refine ⟨c :: xs, ys, rfl, ?_⟩
        rw [hc, cutLines_newline, cutLines_newline, hx, List.take_succ_cons]
      obtain ⟨xs, ys, rfl, hx⟩ := ih (n + 1)
      refine ⟨c :: xs, ys, rfl, ?_⟩
      by_cases hr : c = cr ∧ (xs ++ ys).head? = some nl
      · -- the newline is in the front part, for otherwise that part would have no line
        obtain ⟨rfl, hr⟩ := hr
        cases xs with
        | nil =>
          obtain ⟨ys, rfl⟩ : ∃ ys', ys = nl :: ys' := by
            cases ys with
            | nil => simp at hr
            | cons d ys => exact ⟨ys, by simpa using hr⟩
          simp at hx
        | cons d xs =>
          have hd : (d :: xs).head? = some nl := by simpa using hr
          rw [cutLines_carriageReturn hc hd, cutLines_carriageReturn hc hr, hx]
      · have hr' : ¬ (c = cr ∧ xs.head? = some nl) := by
          rintro ⟨rfl, hh⟩
          exact hr ⟨rfl, by simp [hh]⟩
        rw [cutLines_cons hc hr', cutLines_cons hc hr, hx]
        cases cutLines nl cr (xs ++ ys) <;> simp

end

theorem not_newline_of_mem_lines {text line : String} (h : line ∈ lines text) :
    '\n' ∉ line.toList := by
  obtain ⟨l, hl, rfl⟩ := List.mem_map.1 h
  simpa using not_mem_of_mem_cutLines hl

/-- Every `ls` without `'\n'` is the `lines` of a text. -/
theorem exists_lines_eq {ls : List String} (h : ∀ l ∈ ls, '\n' ∉ l.toList) :
    ∃ text, lines text = ls := by
  refine ⟨String.ofList ((ls.map String.toList).flatMap (· ++ ['\r', '\n'])), ?_⟩
  rw [lines, String.toList_ofList, cutLines_flatMap (by decide) (by simpa using h)]
  simp

/-- `text` can be cut behind its first `n` lines. -/
theorem exists_front (text : String) (n : Nat) :
    ∃ front back, text = front ++ back ∧ lines front = (lines text).take n := by
  obtain ⟨xs, ys, he, hx⟩ := exists_cutLines_eq_take '\n' '\r' text.toList n
  refine ⟨String.ofList xs, String.ofList ys, ?_, ?_⟩
  · rw [← String.ofList_append, ← he, String.ofList_toList]
  · rw [lines, lines, String.toList_ofList, hx, List.map_take]

end TurtleGraphics.Text
