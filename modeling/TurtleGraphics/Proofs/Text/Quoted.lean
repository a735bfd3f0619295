import TurtleGraphics.Proofs.Text.Numeral
import TurtleGraphics.Proofs.Text.Words
import TurtleGraphics.Text.Quoted

/-!
# Quoted text on one line

Whatever a text holds, it is quoted on one line: the space is the only blank that may be left in it
(`SpacesOnly`, `spacesOnly_quoted`). Every other blank is unprintable and given by its number or by
a letter. Numbers have no blank at all, and words joined by single spaces no other.
-/

namespace TurtleGraphics.Text

/-- No character of `cs` is a blank other than the space. -/
def SpacesOnly (cs : List Char) : Prop :=
  ∀ c ∈ cs, isBlank c = true → c = ' '

instance (cs : List Char) : Decidable (SpacesOnly cs) :=
  List.decidableBAll (fun c => isBlank c = true → c = ' ') cs

@[simp] theorem spacesOnly_append {xs ys : List Char} :
    SpacesOnly (xs ++ ys) ↔ SpacesOnly xs ∧ SpacesOnly ys :=
  List.forall_mem_append

@[simp] theorem spacesOnly_cons {c : Char} {cs : List Char} :
    SpacesOnly (c :: cs) ↔ (isBlank c = true → c = ' ') ∧ SpacesOnly cs :=
  List.forall_mem_cons

theorem spacesOnly_of_noBlank {cs : List Char} (h : ∀ c ∈ cs, isBlank c = false) :
    SpacesOnly cs := fun c hc hb => by
  rw [h c hc] at hb
  cases hb

/-! ## Numbers -/

theorem isBlank_digitChar {d : Nat} (h : d < 16) : isBlank d.digitChar = false := by
  revert d
  decide

/-- The digits of `n` to base 16 are no blanks. -/
theorem noBlank_toDigits (n : Nat) : ∀ c ∈ Nat.toDigits 16 n, isBlank c = false := by
  induction n using Nat.strongRecOn with
  | ind n ih =>
    rw [Nat.toDigits_eq_if (by decide)]
    split
    · rename_i hn
      exact List.forall_mem_singleton.2 (isBlank_digitChar hn)
    · have hq : n / 16 < n := Nat.div_lt_self (by omega) (by decide)
      refine List.forall_mem_append.2 ⟨ih _ hq, ?_⟩
      exact List.forall_mem_singleton.2 (isBlank_digitChar (Nat.mod_lt n (by decide)))

theorem spacesOnly_toString (n : Nat) : SpacesOnly (toString n).toList := by
  refine spacesOnly_of_noBlank fun c hc => isBlank_of_isDigit ?_
  rw [Nat.toString_eq_repr, Nat.toList_repr] at hc
  exact isDigit_toDigits n c hc

/-! ## Words -/

/-- Words joined by single spaces are `SpacesOnly`. -/
theorem spacesOnly_intercalate {ws : List String} (h : ∀ w ∈ ws, IsWord w.toList) :
    SpacesOnly (" ".intercalate ws).toList := by
  rw [String.toList_intercalate]
  induction ws with
  | nil => simp [SpacesOnly]
  | cons w ws ih =>
    obtain ⟨hw, hws⟩ := List.forall_mem_cons.1 h
    have hfirst := spacesOnly_of_noBlank hw.noBlank
    cases ws with
    | nil => simpa using hfirst
    | cons v ws =>
      simp only [List.map_cons, List.intercalate_cons_cons, spacesOnly_append]
      exact ⟨⟨hfirst, by decide⟩, ih hws⟩

/-! ## Quoted text -/

theorem spacesOnly_quoteChar (c : Char) : SpacesOnly (quoteChar c) := by
  unfold quoteChar
  split
  · rename_i hc
    rcases hc with rfl | rfl <;> decide
  -- The newline, the carriage return, the tab and the null character have texts of their own.
  split
  · decide
  split
  · decide
  split
  · decide
  split
  · decide
  split
  · have hd := spacesOnly_of_noBlank (noBlank_toDigits c.toNat)
    simp only [spacesOnly_append]
    exact ⟨⟨by decide, hd⟩, by decide⟩
  · rename_i hu
    refine List.forall_mem_singleton.2 fun hb => Decidable.byContradiction fun hs => ?_
    exact hu (isUnprintable_of_isBlank hb hs)

/-- `quoted text` is `SpacesOnly`, whatever `text` is. -/
theorem spacesOnly_quoted (text : String) : SpacesOnly (quoted text).toList := by
  have hq : SpacesOnly (text.toList.flatMap quoteChar) := by
    intro c hc
    obtain ⟨d, -, hd⟩ := List.mem_flatMap.1 hc
    exact spacesOnly_quoteChar d c hd
  simp only [quoted, String.toList_ofList, List.cons_append, spacesOnly_cons, spacesOnly_append]
  exact ⟨by decide, hq, by decide⟩

end TurtleGraphics.Text
