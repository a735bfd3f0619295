import TurtleGraphics.Proofs.Command.Kinds
import TurtleGraphics.Proofs.Command.Words
import TurtleGraphics.Proofs.Script.Agreement
import TurtleGraphics.Proofs.Text.LineEnds

/-!
# The verdict of a check

A check passes over the lines that hold no command and carries the others out, until one fails.
`Succeeds` is a run in which none fails, and `FailsFirst` one that stops at the first line that
does.

* `Script.succeeds_or_failsFirst`: every run is the one or the other;
* `Script.checkLines_eq_ok_of_succeeds`, `Script.checkLines_eq_error_of_failsFirst`: the answer of a
  check in either case;
* `Script.check_of_sameUpToEnds`: the answer does not depend on how the lines are ended.
-/

namespace TurtleGraphics

open Text (EndChange Returned SameUpToEnds cutLines cutWords_append_cons isBlank words)

/-- `Succeeds t ls t'` if the commands on the lines `ls` succeed, in order, and take the turtle from
`t` to `t'`. -/
inductive Succeeds : Turtle → List String → Turtle → Prop where
  | nil (t : Turtle) : Succeeds t [] t
  | passedOver {t t' : Turtle} {line : String} {rest : List String} (h : ¬ IsCommand line) :
      Succeeds t rest t' → Succeeds t (line :: rest) t'
  | command {t t₁ t' : Turtle} {line : String} {rest : List String} {outcome : Outcome}
      (h : IsCommand line) (hd : t.dispatchLine line = (t₁, some (.ok outcome))) :
      Succeeds t₁ rest t' → Succeeds t (line :: rest) t'

/-- The command on `line`, which is line `i` of `ls` counted from zero, fails with `e`, and those in
front of it succeed. -/
def FailsFirst (t : Turtle) (ls : List String) (i : Nat) (line : String) (e : CommandError) :
    Prop :=
  ls[i]? = some line ∧ IsCommand line ∧
    ∃ t', Succeeds t (ls.take i) t' ∧ (t'.dispatchLine line).2 = some (.error e)

/-- `line` and `line'` are the same to a check: they have the same `words`, and both or neither is a
command. -/
def SameCommand (line line' : String) : Prop :=
  (IsCommand line ↔ IsCommand line') ∧ words line = words line'

namespace Script

variable {t t' : Turtle} {n : Nat} {line : String} {rest xs ys : List String}

theorem checkLines_cons_of_not_isCommand (h : ¬ IsCommand line) :
    checkLines t n (line :: rest) = checkLines t (n + 1) rest := by
  rw [checkLines]
  split
  · rfl
  · rename_i hm
    rw [dispatchLine_of_not_isCommand (by simpa using hm) h]

theorem checkLines_cons_of_ok {t₁ : Turtle} {outcome : Outcome} (h : IsCommand line)
    (hd : t.dispatchLine line = (t₁, some (.ok outcome))) :
    checkLines t n (line :: rest) = checkLines t₁ (n + 1) rest := by
  rw [checkLines, (isCommand_iff.1 h).1, hd]
  rfl

theorem checkLines_cons_of_error {t₁ : Turtle} {e : CommandError} (h : IsCommand line)
    (hd : t.dispatchLine line = (t₁, some (.error e))) :
    checkLines t n (line :: rest) = .error ⟨n, e⟩ := by
  rw [checkLines, (isCommand_iff.1 h).1, hd]
  rfl

/-! ## The two answers -/

theorem checkLines_append_of_succeeds (h : Succeeds t xs t') (n : Nat) (ys : List String) :
    checkLines t n (xs ++ ys) = checkLines t' (n + xs.length) ys := by
  induction h generalizing n with
  | nil => rfl
  | passedOver hc _ ih =>
    rw [List.cons_append, checkLines_cons_of_not_isCommand hc, ih, List.length_cons]
    congr 1
    omega
  | command hc hd _ ih =>
    rw [List.cons_append, checkLines_cons_of_ok hc hd, ih, List.length_cons]
    congr 1
    omega

/-- The lines `ls` all succeed, or one of them `FailsFirst`. -/
theorem succeeds_or_failsFirst (t : Turtle) (ls : List String) :
    (∃ t', Succeeds t ls t') ∨ ∃ i line e, FailsFirst t ls i line e := by
  induction ls generalizing t with
  | nil => exact .inl ⟨t, .nil t⟩
  | cons line rest ih =>
    have step {t₁ : Turtle} (h : ∀ xs t', Succeeds t₁ xs t' → Succeeds t (line :: xs) t') :
        (∃ t', Succeeds t (line :: rest) t') ∨
          ∃ i line' e, FailsFirst t (line :: rest) i line' e := by
      obtain ⟨t', hs⟩ | ⟨i, line', e, hl, hc, t', hs, he⟩ := ih t₁
      · exact .inl ⟨t', h _ _ hs⟩
      · exact .inr ⟨i + 1, line', e, hl, hc, t', h _ _ hs, he⟩
    by_cases hc : IsCommand line
    · obtain ⟨t₁, answer, hd⟩ := hc.exists_answer t
      cases answer with
      | error e => exact .inr ⟨0, line, e, rfl, hc, t, .nil t, by rw [hd]⟩
      | ok outcome => exact step fun xs t' hs => .command hc hd hs
    · exact step fun xs t' hs => .passedOver hc hs

theorem checkLines_eq_ok_of_succeeds (h : Succeeds t xs t') (n : Nat) :
    checkLines t n xs = .ok t' := by
  simpa [checkLines] using checkLines_append_of_succeeds h n []

theorem checkLines_eq_error_of_failsFirst {i : Nat} {e : CommandError}
    (h : FailsFirst t xs i line e) (n : Nat) : checkLines t n xs = .error ⟨n + i, e⟩ := by
  obtain ⟨hl, hc, t', hs, he⟩ := h
  obtain ⟨hi, rfl⟩ := List.getElem?_eq_some_iff.1 hl
  have hd : t'.dispatchLine xs[i] = ((t'.dispatchLine xs[i]).1, some (.error e)) := by rw [← he]
  have hlen : (xs.take i).length = i := by simp; omega
  calc
    checkLines t n xs = checkLines t n (xs.take i ++ xs[i] :: xs.drop (i + 1)) := by simp
    _ = checkLines t' (n + i) (xs[i] :: xs.drop (i + 1)) := by
      rw [checkLines_append_of_succeeds hs, hlen]
    _ = .error ⟨n + i, e⟩ := checkLines_cons_of_error hc hd

theorem not_succeeds_of_failsFirst {i : Nat} {e : CommandError} (h : FailsFirst t xs i line e) :
    ¬ Succeeds t xs t' := fun hs => by
  have he := checkLines_eq_error_of_failsFirst h 0
  rw [checkLines_eq_ok_of_succeeds hs] at he
  cases he

theorem checkLines_eq_ok_iff_succeeds : checkLines t n xs = .ok t' ↔ Succeeds t xs t' := by
  refine ⟨fun h => ?_, fun h => checkLines_eq_ok_of_succeeds h n⟩
  obtain ⟨t₁, hs⟩ | ⟨i, line, e, hf⟩ := succeeds_or_failsFirst t xs
  · rw [checkLines_eq_ok_of_succeeds hs] at h
    cases h
    exact hs
  · rw [checkLines_eq_error_of_failsFirst hf] at h
    cases h

/-! ## Lines that are the same to a turtle -/

theorem checkLines_of_sameCommand (h : List.Forall₂ SameCommand xs ys) (t : Turtle) (n : Nat) :
    checkLines t n xs = checkLines t n ys := by
  induction h generalizing t n with
  | nil => rfl
  | @cons line line' xs ys hl _ ih =>
    by_cases hc : IsCommand line
    · have hc' := hl.1.1 hc
      obtain ⟨t₁, answer, hd⟩ := hc.exists_answer t
      have hd' : t.dispatchLine line' = (t₁, some answer) := by
        rw [← Turtle.dispatchLine_of_words_eq hl.2, hd]
      cases answer with
      | error e => rw [checkLines_cons_of_error hc hd, checkLines_cons_of_error hc' hd']
      | ok outcome => rw [checkLines_cons_of_ok hc hd, checkLines_cons_of_ok hc' hd', ih]
    · have hc' : ¬ IsCommand line' := fun h => hc (hl.1.2 h)
      rw [checkLines_cons_of_not_isCommand hc, checkLines_cons_of_not_isCommand hc', ih]

/-- `checkLines` passes over a line without a command at the end. -/
theorem checkLines_append_blank (h : ¬ IsCommand line) (t : Turtle) (n : Nat) (xs : List String) :
    checkLines t n (xs ++ [line]) = checkLines t n xs := by
  cases hc : checkLines t n xs with
  | error e => exact checkLines_append_of_error hc [line]
  | ok t' =>
    rw [checkLines_append_of_succeeds (checkLines_eq_ok_iff_succeeds.1 hc),
      checkLines_cons_of_not_isCommand h]
    rfl

/-! ## Line ends -/

/-- `'\r'` is blank, so a line with one behind it has the same `words`. -/
theorem sameCommand_of_returned {l l' : List Char} (h : Returned '\r' l l') :
    SameCommand (String.ofList l) (String.ofList l') := by
  obtain rfl | rfl := h
  · exact ⟨Iff.rfl, rfl⟩
  have hblank : isBlank '\r' = true := by decide
  have hfirst : firstChar? (String.ofList (l ++ ['\r'])) = firstChar? (String.ofList l) := by
    simp [firstChar?, List.find?_append, hblank]
  have hwords : words (String.ofList (l ++ ['\r'])) = words (String.ofList l) := by
    simp [words, cutWords_append_cons hblank]
  exact ⟨by rw [IsCommand, IsCommand, hfirst], hwords.symm⟩

theorem checkLines_of_returned {ls ls' : List (List Char)}
    (h : List.Forall₂ (Returned '\r') ls ls') (t : Turtle) (n : Nat) :
    checkLines t n (ls.map String.ofList) = checkLines t n (ls'.map String.ofList) := by
  refine checkLines_of_sameCommand ?_ t n
  rw [List.forall₂_map_left_iff, List.forall₂_map_right_iff]
  exact h.imp fun _ _ => sameCommand_of_returned

theorem checkLines_of_endChange {cs cs' : List Char} (h : EndChange '\n' '\r' cs cs') (t : Turtle)
    (n : Nat) :
    checkLines t n ((cutLines '\n' '\r' cs).map String.ofList) =
      checkLines t n ((cutLines '\n' '\r' cs').map String.ofList) := by
  have hne : '\r' ≠ '\n' := by decide
  cases h with
  | carriageReturn xs ys =>
    exact checkLines_of_returned (Text.cutLines_of_carriageReturn hne xs ys) t n
  | final =>
    obtain h | h := Text.cutLines_append_newline hne cs
    · have hblank : ¬ IsCommand (String.ofList []) := by decide
      rw [h, List.map_append, List.map_singleton, checkLines_append_blank hblank]
    · exact (checkLines_of_returned h t n).symm

theorem check_of_sameUpToEnds {text other : String} (h : SameUpToEnds text other) :
    check other = check text := by
  have hcut {cs cs' : List Char} (h : Relation.EqvGen (EndChange '\n' '\r') cs cs') :
      checkLines .fresh 1 ((cutLines '\n' '\r' cs).map String.ofList) =
        checkLines .fresh 1 ((cutLines '\n' '\r' cs').map String.ofList) := by
    induction h with
    | rel _ _ h => exact checkLines_of_endChange h .fresh 1
    | refl => rfl
    | symm _ _ _ ih => exact ih.symm
    | trans _ _ _ _ _ ih₁ ih₂ => exact ih₁.trans ih₂
  exact (hcut h).symm

end Script

end TurtleGraphics
