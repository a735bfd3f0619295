import TurtleGraphics.Text.Numeral

/-!
# Numerals that write an integer

An integer in decimal is a numeral of itself: `readInt32_toString` reads it back, for every integer
of 32 bits. The least one is read too, since a numeral below zero has a limit of its own.

* `readDigits_eq_ok`: digits are read as the number that they write, up to the limit;
* `readInt_repr`: the two signs;
* `isDigit_or_eq_minus`: a decimal has no characters but digits and the sign.
-/

namespace TurtleGraphics.Text

/-- `ofDigitChars` only grows with the digits that follow. -/
theorem le_ofDigitChars (cs : List Char) (value : Nat) : value ≤ Nat.ofDigitChars 10 cs value := by
  induction cs generalizing value with
  | nil => simp
  | cons c cs ih =>
    rw [Nat.ofDigitChars_cons]
    exact Nat.le_trans (by omega) (ih _)

/-- `readDigits` reads the digits `front` within the limit, and goes on with their value. -/
theorem readDigits_append {limit value : Nat} {beyond : NumeralError} {front : List Char}
    (hd : ∀ c ∈ front, c.isDigit = true) (hl : Nat.ofDigitChars 10 front value ≤ limit)
    (back : List Char) :
    readDigits limit beyond (front ++ back) value =
      readDigits limit beyond back (Nat.ofDigitChars 10 front value) := by
  induction front generalizing value with
  | nil => rfl
  | cons c cs ih =>
    obtain ⟨hc, hcs⟩ := List.forall_mem_cons.1 hd
    rw [Nat.ofDigitChars_cons] at hl ⊢
    have hv := Nat.le_trans (le_ofDigitChars cs _) hl
    simp only [List.cons_append, readDigits, digitValue, hc, ite_true, if_pos hv]
    exact ih hcs hl

theorem readDigits_eq_ok {limit value : Nat} {beyond : NumeralError} {cs : List Char}
    (hd : ∀ c ∈ cs, c.isDigit = true) (hl : Nat.ofDigitChars 10 cs value ≤ limit) :
    readDigits limit beyond cs value = .ok (Nat.ofDigitChars 10 cs value) := by
  rw [← List.append_nil cs, readDigits_append hd hl, List.append_nil]
  rfl

theorem isDigit_toDigits (n : Nat) : ∀ c ∈ Nat.toDigits 10 n, c.isDigit = true := fun _ hc =>
  Nat.isDigit_of_mem_toDigits (by decide) (by decide) hc

/-- `readDigits` reads `Nat.toDigits` back. -/
theorem readDigits_toDigits {limit n : Nat} (beyond : NumeralError) (hn : n ≤ limit) :
    readDigits limit beyond (Nat.toDigits 10 n) 0 = .ok n := by
  rw [readDigits_eq_ok (isDigit_toDigits n) (by simpa using hn), Nat.ofDigitChars_ten_toDigits]

/-- On digits without a sign, `readInt` is `readPositive`. -/
theorem readInt_of_isDigit {cs : List Char} (hne : cs ≠ []) (hd : ∀ c ∈ cs, c.isDigit = true) :
    readInt cs = readPositive cs := by
  obtain ⟨c, cs, rfl⟩ := List.exists_cons_of_ne_nil hne
  have hc := hd c List.mem_cons_self
  have hplus : c ≠ '+' := by rintro rfl; cases hc
  have hminus : c ≠ '-' := by rintro rfl; cases hc
  unfold readInt
  split <;> simp_all

theorem readInt_repr {n : Int} (hl : -2147483648 ≤ n) (hu : n ≤ 2147483647) :
    readInt n.repr.toList = .ok n := by
  cases n with
  | ofNat m =>
    have hm : m ≤ 2147483647 := Int.ofNat_le.1 hu
    rw [Int.repr, Nat.toList_repr, readInt_of_isDigit Nat.toDigits_ne_nil (isDigit_toDigits m),
      readPositive, readDigits_toDigits _ hm]
    rfl
  | negSucc m =>
    have hm : m + 1 ≤ 2147483648 := by omega
    obtain ⟨d, ds, hds⟩ := List.exists_cons_of_ne_nil (Nat.toDigits_ne_nil (n := m + 1) (b := 10))
    have hr := readDigits_toDigits .tooSmall hm
    rw [hds] at hr
    have hs : (Int.negSucc m).repr.toList = '-' :: d :: ds := by
      rw [Int.repr, String.toList_append, Nat.toList_repr, hds]
      rfl
    rw [hs, readInt, readNegative, hr]
    · rfl
    · simp

/-- `readInt32` reads `toString` back. -/
theorem readInt32_toString (n : Int32) : readInt32 (toString n.toInt) = .ok n := by
  have hl := n.le_toInt
  have hu := n.toInt_lt
  rw [readInt32, Int.toString_eq_repr, readInt_repr (by omega) (by omega)]
  exact congrArg Except.ok (Int32.ofInt_toInt n)

theorem isDigit_or_eq_minus {n : Int} {c : Char} (hc : c ∈ (toString n).toList) :
    c.isDigit = true ∨ c = '-' := by
  cases n with
  | ofNat m =>
    rw [Int.toString_eq_repr, Int.repr, Nat.toList_repr] at hc
    exact .inl (isDigit_toDigits m c hc)
  | negSucc m =>
    rw [Int.toString_eq_repr, Int.repr, String.toList_append, Nat.toList_repr] at hc
    rcases List.mem_append.1 hc with h | h
    · exact .inr (by simpa using h)
    · exact .inl (isDigit_toDigits (m + 1) c h)

theorem toString_ne_nil (n : Int) : (toString n).toList ≠ [] := by
  cases n with
  | ofNat m =>
    rw [Int.toString_eq_repr, Int.repr, Nat.toList_repr]
    exact Nat.toDigits_ne_nil
  | negSucc m =>
    rw [Int.toString_eq_repr, Int.repr, String.toList_append]
    simp

end TurtleGraphics.Text
