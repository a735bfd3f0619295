import Mathlib.Data.List.Forall2
import TurtleGraphics.Proofs.Command.Dispatch
import TurtleGraphics.Proofs.Text.Grammar

/-!
# Parameters of a command

The parameters of a command are numerals of 32 bits, and nothing else is taken for one. The verb
gets the values that they write (`Turtle.dispatch_of_forall₂`), and the leftmost parameter that is
no numeral is reported with its cause (`Turtle.dispatch_of_isFaulty`). `Turtle.dispatch_numerals`
puts the grammar and the commands together.
-/

namespace TurtleGraphics

open Text (IsFaulty IsNumeral NumeralError readInt32)

theorem map_ok_iff_forall₂ {params : List String} {args : List Int32} :
    args.map Except.ok = params.map readInt32 ↔
      List.Forall₂ (fun p (n : Int32) => IsNumeral p.toList n.toInt) params args := by
  induction params generalizing args with
  | nil => rw [List.map_nil, List.map_eq_nil_iff, List.forall₂_nil_left_iff]
  | cons p params ih =>
    cases args with
    | nil => simp [List.forall₂_nil_right_iff]
    | cons n args =>
      rw [List.map_cons, List.map_cons, List.cons_eq_cons, List.forall₂_cons, ih,
        ← Text.readInt32_eq_ok_iff, eq_comm]

/-- The value of an `IsNumeral` text is that of an `Int32`. -/
theorem exists_readInt32_eq_ok {p : String} {n : Int} (h : IsNumeral p.toList n) :
    ∃ m, readInt32 p = .ok m := by
  rw [readInt32, h.readInt_eq]
  exact ⟨_, rfl⟩

namespace Turtle

variable {v : Verb} {params : List String}

/-- `dispatch` applies the operation that `Means` gives to the values of `params`, each in its own
place. -/
theorem dispatch_of_forall₂ (t : Turtle) (h0 : 0 < v.arity) (hl : params.length = v.arity)
    {args : List Int32}
    (h : List.Forall₂ (fun p (n : Int32) => IsNumeral p.toList n.toInt) params args) :
    ∃ op, Means v.token args op ∧
      t.dispatch v.token params = ((t.apply op).1, .ok (t.apply op).2) := by
  obtain ⟨hal, he⟩ := readParams_eq_ok (map_ok_iff_forall₂.2 h)
  have ha : v.readArgs params = .ok ⟨args.toArray, by simp [hal, hl]⟩ := by
    rw [Verb.readArgs_of_length_eq h0 hl, he]
    rfl
  refine ⟨_, v.means_op ⟨args.toArray, by simp [hal, hl]⟩, ?_⟩
  rw [dispatch, Command.read_of_readArgs_ok ha, execute]
  rfl

/-- `dispatch` reports the leftmost parameter that `IsFaulty` with its cause, whatever is in
`after`. -/
theorem dispatch_of_isFaulty (t : Turtle) (h0 : 0 < v.arity) {before after : List String}
    {p : String} {cause : NumeralError} (hl : (before ++ p :: after).length = v.arity)
    (hb : ∀ q ∈ before, ∃ n, IsNumeral q.toList n) (hp : IsFaulty p.toList cause) :
    t.dispatch v.token (before ++ p :: after) =
      (t, .error (.malformed (" ".intercalate (v.token :: (before ++ p :: after)))
        (.notInteger p cause))) := by
  have hb (q) (hq : q ∈ before) : ∃ n, readInt32 q = .ok n :=
    (hb q hq).elim fun _ hn => exists_readInt32_eq_ok hn
  have ha : v.readArgs (before ++ p :: after) = .error (.notInteger p cause) := by
    rw [Verb.readArgs_of_length_eq h0 hl,
      readParams_eq_error hb (Text.readInt32_eq_error_iff.2 hp)]
    rfl
  rw [dispatch, Command.read_of_readArgs_error ha, execute]

/-- `dispatch` succeeds if and only if each of `params` is a numeral. -/
theorem dispatch_ok_iff (t : Turtle) (h0 : 0 < v.arity) (hl : params.length = v.arity) :
    (∃ outcome, (t.dispatch v.token params).2 = .ok outcome) ↔
      ∀ p ∈ params, ∃ n, IsNumeral p.toList n := by
  constructor
  · rintro ⟨outcome, ho⟩
    by_contra hn
    have hbad : ∃ p ∈ params, ∀ n, readInt32 p ≠ .ok n := by
      push Not at hn
      obtain ⟨p, hp, hn⟩ := hn
      exact ⟨p, hp, fun n h => hn n.toInt (Text.readInt32_eq_ok_iff.1 h)⟩
    obtain ⟨before, p, after, cause, rfl, hb, hc⟩ := exists_leftmost hbad
    have hb (q) (hq : q ∈ before) : ∃ n, IsNumeral q.toList n :=
      (hb q hq).elim fun n hn => ⟨n.toInt, Text.readInt32_eq_ok_iff.1 hn⟩
    rw [dispatch_of_isFaulty t h0 hl hb (Text.readInt32_eq_error_iff.1 hc)] at ho
    cases ho
  · intro h
    obtain ⟨args, ha⟩ := exists_args fun p hp => (h p hp).elim fun _ => exists_readInt32_eq_ok
    obtain ⟨op, -, hd⟩ := dispatch_of_forall₂ t h0 hl (map_ok_iff_forall₂.1 ha)
    exact ⟨_, congrArg Prod.snd hd⟩

/-- The parameters of a command are read by one grammar. `readInt32` takes a text exactly if it
`IsNumeral` and gives its value, and every other text `IsFaulty` with the cause of the first place
that does not fit. With `v.arity` parameters, `dispatch` gets their values, or it fails at the
leftmost one that is no numeral. -/
theorem dispatch_numerals :
    (∀ (p : String) (n : Int32), readInt32 p = .ok n ↔ IsNumeral p.toList n.toInt) ∧
    (∀ (p : String) (cause : NumeralError),
      readInt32 p = .error cause ↔ IsFaulty p.toList cause) ∧
    (∀ n : Int32, readInt32 (toString n.toInt) = .ok n) ∧
    ∀ (t : Turtle) (v : Verb) (params : List String), 0 < v.arity → params.length = v.arity →
      ((∃ outcome, (t.dispatch v.token params).2 = .ok outcome) ↔
        ∀ p ∈ params, ∃ n, IsNumeral p.toList n) ∧
      (∀ args, List.Forall₂ (fun p (n : Int32) => IsNumeral p.toList n.toInt) params args →
        ∃ op, Means v.token args op ∧
          t.dispatch v.token params = ((t.apply op).1, .ok (t.apply op).2)) ∧
      ∀ before p after cause, params = before ++ p :: after →
        (∀ q ∈ before, ∃ n, IsNumeral q.toList n) → IsFaulty p.toList cause →
          t.dispatch v.token params =
            (t, .error (.malformed (" ".intercalate (v.token :: params))
              (.notInteger p cause))) := by
  refine ⟨fun _ _ => Text.readInt32_eq_ok_iff, fun _ _ => Text.readInt32_eq_error_iff,
    Text.readInt32_toString, fun t v params h0 hl => ⟨dispatch_ok_iff t h0 hl, ?_, ?_⟩⟩
  · intro args h
    exact dispatch_of_forall₂ t h0 hl h
  · rintro before p after cause rfl hb hp
    exact dispatch_of_isFaulty t h0 hl hb hp

end Turtle

end TurtleGraphics
