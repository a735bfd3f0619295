import TurtleGraphics.Proofs.Text.Lines

/-!
# Pieces of a sequence

A sequence is cut behind each newline into pieces that still have their ends. `IsPieces` says so
piece by piece, and there is one way only to cut (`exists_isPieces`, `IsPieces.unique`). The lines
of the sequence are its pieces without their ends (`IsPieces.cutLines_eq`).
-/

namespace TurtleGraphics.Text

variable {α : Type} {nl cr : α}

/-- `IsPieces nl cs pieces` if `pieces` is `cs`, cut behind every `nl`. -/
inductive IsPieces (nl : α) : List α → List (List α) → Prop
  | nil : IsPieces nl [] []
  /-- What is left behind the last `nl`. -/
  | last (rest : List α) (some : rest ≠ []) (unended : nl ∉ rest) : IsPieces nl rest [rest]
  | ended (line : List α) {rest : List α} {pieces : List (List α)} (within : nl ∉ line)
    (behind : IsPieces nl rest pieces) :
    IsPieces nl (line ++ nl :: rest) ((line ++ [nl]) :: pieces)

/-- The first `nl` of a sequence is in one place only. -/
theorem first_newline {line line' rest rest' : List α} (h : nl ∉ line) (h' : nl ∉ line')
    (he : line ++ nl :: rest = line' ++ nl :: rest') : line = line' ∧ rest = rest' := by
  induction line generalizing line' with
  | nil =>
    cases line' with
    | nil => exact ⟨rfl, List.tail_eq_of_cons_eq he⟩
    | cons d line' =>
      obtain ⟨rfl, -⟩ := List.cons_eq_cons.1 he
      exact absurd List.mem_cons_self h'
  | cons c line ih =>
    cases line' with
    | nil =>
      obtain ⟨rfl, -⟩ := List.cons_eq_cons.1 he
      exact absurd List.mem_cons_self h
    | cons d line' =>
      obtain ⟨rfl, ht⟩ := List.cons_eq_cons.1 he
      obtain ⟨rfl, rfl⟩ := ih (List.not_mem_of_not_mem_cons h) (List.not_mem_of_not_mem_cons h') ht
      exact ⟨rfl, rfl⟩

theorem IsPieces.unique {cs : List α} {pieces other : List (List α)} (h : IsPieces nl cs pieces)
    (h' : IsPieces nl cs other) : other = pieces := by
  induction h generalizing other with
  | nil =>
    generalize hcs : [] = cs at h'
    cases h' with
    | nil => rfl
    | last _ some => exact absurd hcs.symm some
    | ended => simp at hcs
  | last rest some unended =>
    cases h' with
    | nil => exact absurd rfl some
    | last => rfl
    | ended => simp at unended
  | ended line within behind ih =>
    generalize hcs : line ++ nl :: _ = cs at h'
    cases h' with
    | nil => simp at hcs
    | last _ _ unended => simp [← hcs] at unended
    | ended line' within' behind' =>
      obtain ⟨rfl, rfl⟩ := first_newline within within' hcs
      rw [ih behind']

variable [DecidableEq α]

/-- `piece` without the `nl` at its end, and without one `cr` right in front of it. -/
def strip (nl cr : α) (piece : List α) : List α :=
  if piece.getLast? = some nl then
    if piece.dropLast.getLast? = some cr then piece.dropLast.dropLast else piece.dropLast
  else piece

example : strip 10 13 [97, 13, 13, 10] = [97, 13] ∧ strip 10 13 [97, 13] = [97, 13] := by decide

theorem exists_isPieces (nl : α) (cs : List α) : ∃ pieces, IsPieces nl cs pieces := by
  induction cs with
  | nil => exact ⟨[], .nil⟩
  | cons c cs ih =>
    obtain ⟨pieces, h⟩ := ih
    by_cases hc : nl = c
    · subst hc
      exact ⟨_, .ended [] (by simp) h⟩
    cases h with
    | nil => exact ⟨_, .last [c] (by simp) (by simpa using hc)⟩
    | last _ some unended => exact ⟨_, .last (c :: cs) (by simp) (by simp [hc, unended])⟩
    | ended line within behind => exact ⟨_, .ended (c :: line) (by simp [hc, within]) behind⟩

theorem strip_of_ended (nl cr : α) (line : List α) :
    strip nl cr (line ++ [nl]) = if line.getLast? = some cr then line.dropLast else line := by
  simp [strip]

theorem strip_of_unended {piece : List α} (h : nl ∉ piece) : strip nl cr piece = piece :=
  if_neg fun hl => h (List.mem_of_getLast? hl)

/-- `cutLines` gives the pieces without their ends. -/
theorem IsPieces.cutLines_eq (hne : cr ≠ nl) {cs : List α} {pieces : List (List α)}
    (h : IsPieces nl cs pieces) : cutLines nl cr cs = pieces.map (strip nl cr) := by
  induction h with
  | nil => rfl
  | last rest some unended =>
    rw [cutLines_of_not_mem cr some unended, List.map_singleton, strip_of_unended unended]
  | ended line within behind ih =>
    rw [List.map_cons, ← ih, strip_of_ended]
    split
    · rename_i hl
      obtain ⟨front, rfl⟩ := List.getLast?_eq_some_iff.1 hl
      have hf : nl ∉ front := fun hm => within (List.mem_append_left _ hm)
      rw [List.append_assoc, List.singleton_append, cutLines_append hne hf, List.dropLast_concat]
    · rename_i hl
      exact cutLines_append_cons within hl _

end TurtleGraphics.Text
