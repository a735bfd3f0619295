import TurtleGraphics.Proofs.Text.Numeral

/-!
# The grammar of numerals

A numeral is a sign or none, then one decimal digit or more, with a value within the range of 32
bits (`IsNumeral`). A text that is no numeral has a first position where reading it stops, and what
stands there decides the cause (`IsFaulty`), whatever follows.

* `Signed`: a sign is taken off at most once;
* `exists_stop`: digits fit, or there is a first place where they do not;
* `readInt32_eq_ok_iff`, `readInt32_eq_error_iff`: reading a text decides which of the two it is.
-/

namespace TurtleGraphics.Text

/-- `n` is the value of an `Int32`. -/
def InRange (n : Int) : Prop :=
  -2147483648 ≤ n ∧ n ≤ 2147483647

/-- The integer that `digits` write behind a minus if `negative`, and behind a plus or no sign if
not. -/
def signedValue (negative : Bool) (digits : List Char) : Int :=
  if negative then -(Nat.ofDigitChars 10 digits 0 : Int) else (Nat.ofDigitChars 10 digits 0 : Int)

/-- `Signed text negative digits` if `digits` is what is left of `text` without its sign, which is a
minus if `negative`. -/
inductive Signed : List Char → Bool → List Char → Prop
  | plus (digits : List Char) : Signed ('+' :: digits) false digits
  | minus (digits : List Char) : Signed ('-' :: digits) true digits
  | bare (digits : List Char) (unsigned : ∀ c ∈ digits.head?, c ≠ '+' ∧ c ≠ '-') :
    Signed digits false digits

/-- `text` is a numeral of `n`: digits, perhaps behind a sign, with a value `InRange`. -/
inductive IsNumeral (text : List Char) (n : Int) : Prop
  | intro (negative : Bool) (digits : List Char) (signed : Signed text negative digits)
    (some : digits ≠ []) (decimal : ∀ c ∈ digits, c.isDigit = true)
    (value : n = signedValue negative digits) (fits : InRange n)

/-- Reading digits stops with the error of the first place that does not fit. -/
inductive Stops (negative : Bool) : List Char → NumeralError → Prop
  /-- `c` is no digit, and those in front of it are `InRange`. -/
  | invalidDigit (front : List Char) (c : Char) (back : List Char)
    (decimal : ∀ d ∈ front, d.isDigit = true) (fits : InRange (signedValue negative front))
    (bad : c.isDigit = false) : Stops negative (front ++ c :: back) .invalidDigit
  /-- The digit `d` leaves the range, whatever is in `back`. -/
  | beyond (front : List Char) (d : Char) (back : List Char)
    (decimal : ∀ c ∈ front ++ [d], c.isDigit = true) (fits : InRange (signedValue negative front))
    (leaves : ¬ InRange (signedValue negative (front ++ [d]))) :
    Stops negative (front ++ d :: back) (if negative then .tooSmall else .tooLarge)

/-- `text` is no numeral: it is empty, a lone sign, or `Stops` behind its sign. -/
inductive IsFaulty (text : List Char) : NumeralError → Prop
  | empty (nil : text = []) : IsFaulty text .empty
  | loneSign (sign : text = ['+'] ∨ text = ['-']) : IsFaulty text .invalidDigit
  | stops (negative : Bool) (digits : List Char) (cause : NumeralError)
    (signed : Signed text negative digits) (stops : Stops negative digits cause) :
    IsFaulty text cause

/-! ## Signs and limits -/

/-- The largest value of digits for which `signedValue negative` is `InRange`. -/
def limit (negative : Bool) : Nat :=
  if negative then 2147483648 else 2147483647

theorem inRange_iff {negative : Bool} {digits : List Char} :
    InRange (signedValue negative digits) ↔ Nat.ofDigitChars 10 digits 0 ≤ limit negative := by
  cases negative <;> simp only [InRange, signedValue, limit, ite_true, Bool.false_eq_true,
    ite_false] <;> omega

theorem exists_signed (text : List Char) : ∃ negative digits, Signed text negative digits := by
  by_cases hp : text.head? = some '+'
  · obtain ⟨digits, rfl⟩ := List.head?_eq_some_iff.1 hp
    exact ⟨false, digits, .plus digits⟩
  · by_cases hm : text.head? = some '-'
    · obtain ⟨digits, rfl⟩ := List.head?_eq_some_iff.1 hm
      exact ⟨true, digits, .minus digits⟩
    · refine ⟨false, text, .bare text fun c hc => ⟨?_, ?_⟩⟩
      · rintro rfl
        exact hp hc
      · rintro rfl
        exact hm hc

/-- A `Signed` text without digits is empty or a lone sign. -/
theorem Signed.of_nil {text : List Char} {negative : Bool} (h : Signed text negative []) :
    text = [] ∨ text = ['+'] ∨ text = ['-'] := by
  cases h <;> simp

/-- `readInt` reads the `digits` of a `Signed` text up to the `limit` of its sign. -/
theorem Signed.readInt_eq {text digits : List Char} {negative : Bool}
    (h : Signed text negative digits) (hne : digits ≠ []) :
    readInt text =
      (readDigits (limit negative) (if negative then .tooSmall else .tooLarge) digits 0).map
        fun n => if negative then -(n : Int) else (n : Int) := by
  obtain ⟨d, ds, rfl⟩ := List.exists_cons_of_ne_nil hne
  cases h with
  | plus | minus => rfl
  | bare _ unsigned =>
    obtain ⟨hp, hm⟩ := unsigned d rfl
    unfold readInt
    split <;> simp_all [readPositive, limit]

/-! ## Reading the digits -/

/-- Either all of `digits` are digits and stay within `limit`, or there is a first `c` that is none
or leaves it. -/
theorem exists_stop {limit value : Nat} (hv : value ≤ limit) (digits : List Char) :
    ((∀ c ∈ digits, c.isDigit = true) ∧ Nat.ofDigitChars 10 digits value ≤ limit) ∨
    ∃ front c back, digits = front ++ c :: back ∧ (∀ d ∈ front, d.isDigit = true) ∧
      Nat.ofDigitChars 10 front value ≤ limit ∧
      (c.isDigit = true → limit < Nat.ofDigitChars 10 (front ++ [c]) value) := by
  induction digits generalizing value with
  | nil => exact .inl ⟨by simp, by simpa using hv⟩
  | cons d ds ih =>
    by_cases hd : d.isDigit = true ∧ Nat.ofDigitChars 10 [d] value ≤ limit
    · obtain ⟨hall, hl⟩ | ⟨front, c, back, rfl, hall, hl, hc⟩ := ih hd.2
      · exact .inl ⟨List.forall_mem_cons.2 ⟨hd.1, hall⟩, hl⟩
      · exact .inr ⟨d :: front, c, back, rfl, List.forall_mem_cons.2 ⟨hd.1, hall⟩, hl, hc⟩
    · exact .inr ⟨[], d, ds, rfl, by simp, by simpa using hv, fun h => by
        simpa [h] using hd⟩

theorem stops_or_fits (negative : Bool) (digits : List Char) :
    (∃ cause, Stops negative digits cause) ∨
      (∀ c ∈ digits, c.isDigit = true) ∧ InRange (signedValue negative digits) := by
  obtain ⟨hall, hl⟩ | ⟨front, c, back, rfl, hall, hl, hc⟩ :=
    exists_stop (Nat.zero_le (limit negative)) digits
  · exact .inr ⟨hall, inRange_iff.2 hl⟩
  · cases hd : c.isDigit with
    | false => exact .inl ⟨_, .invalidDigit front c back hall (inRange_iff.2 hl) hd⟩
    | true =>
      refine .inl ⟨_, .beyond front c back ?_ (inRange_iff.2 hl) fun h => ?_⟩
      · exact List.forall_mem_append.2 ⟨hall, by simpa using hd⟩
      · exact Nat.not_lt.2 (inRange_iff.1 h) (hc hd)

/-- `readDigits` fails with `cause` if it `Stops`. -/
theorem Stops.readDigits_eq {negative : Bool} {digits : List Char} {cause : NumeralError}
    (h : Stops negative digits cause) :
    readDigits (limit negative) (if negative then .tooSmall else .tooLarge) digits 0 =
      .error cause := by
  cases h with
  | invalidDigit front c back decimal fits bad =>
    rw [readDigits_append decimal (inRange_iff.1 fits)]
    simp only [readDigits, digitValue, bad, Bool.false_eq_true, ite_false]
  | beyond front d back decimal fits leaves =>
    obtain ⟨hf, hd⟩ := List.forall_mem_append.1 decimal
    have hd := hd d List.mem_cons_self
    rw [inRange_iff, Nat.ofDigitChars_append] at leaves
    rw [readDigits_append hf (inRange_iff.1 fits)]
    simp only [readDigits, digitValue, hd, ite_true]
    exact if_neg leaves

/-! ## Reading a text -/

theorem IsNumeral.readInt_eq {text : List Char} {n : Int} (h : IsNumeral text n) :
    readInt text = .ok n := by
  obtain ⟨negative, digits, signed, some, decimal, rfl, fits⟩ := h
  rw [signed.readInt_eq some, readDigits_eq_ok decimal (inRange_iff.1 fits)]
  rfl

theorem IsFaulty.readInt_eq {text : List Char} {cause : NumeralError} (h : IsFaulty text cause) :
    readInt text = .error cause := by
  cases h with
  | empty nil => rw [nil, readInt]
  | loneSign sign => obtain rfl | rfl := sign <;> rfl
  | stops negative digits cause signed stops =>
    have hne : digits ≠ [] := by cases stops <;> simp
    rw [signed.readInt_eq hne, stops.readDigits_eq]
    rfl

/-- Every text `IsNumeral` or `IsFaulty`. -/
theorem isNumeral_or_isFaulty (text : List Char) :
    (∃ n, IsNumeral text n) ∨ ∃ cause, IsFaulty text cause := by
  obtain ⟨negative, digits, signed⟩ := exists_signed text
  by_cases hne : digits = []
  · subst hne
    obtain nil | sign := signed.of_nil
    · exact .inr ⟨_, .empty nil⟩
    · exact .inr ⟨_, .loneSign sign⟩
  · obtain ⟨cause, hs⟩ | ⟨decimal, fits⟩ := stops_or_fits negative digits
    · exact .inr ⟨cause, .stops negative digits cause signed hs⟩
    · exact .inl ⟨_, .intro negative digits signed hne decimal rfl fits⟩

theorem readInt32_eq_ok_iff {text : String} {n : Int32} :
    readInt32 text = .ok n ↔ IsNumeral text.toList n.toInt := by
  constructor
  · intro h
    obtain ⟨m, hm⟩ | ⟨cause, hc⟩ := isNumeral_or_isFaulty text.toList
    · obtain ⟨-, -, -, -, -, -, least, most⟩ := id hm
      rw [readInt32, hm.readInt_eq] at h
      cases h
      rwa [Int32.toInt_ofInt_of_le (by omega) (by omega)]
    · rw [readInt32, hc.readInt_eq] at h
      cases h
  · intro h
    rw [readInt32, h.readInt_eq]
    exact congrArg Except.ok (Int32.ofInt_toInt n)

theorem readInt32_eq_error_iff {text : String} {cause : NumeralError} :
    readInt32 text = .error cause ↔ IsFaulty text.toList cause := by
  constructor
  · intro h
    obtain ⟨m, hm⟩ | ⟨other, hc⟩ := isNumeral_or_isFaulty text.toList
    · rw [readInt32, hm.readInt_eq] at h
      cases h
    · rw [readInt32, hc.readInt_eq] at h
      cases h
      exact hc
  · intro h
    rw [readInt32, h.readInt_eq]
    rfl

end TurtleGraphics.Text
