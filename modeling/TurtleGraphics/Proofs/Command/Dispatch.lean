import Mathlib.Data.List.Basic
import TurtleGraphics.Command

/-!
# Dispatch of a command

A command is read in full before the turtle is touched. `Means` is the vocabulary as a relation: a
token, its integers in order, and the operation they mean. `Outcome.Tells` is what an outcome says
about the turtle before and after an operation.

* `readParams_eq_ok`, `readParams_eq_error`: every parameter is read, or the leftmost bad one named;
* `Verb.means_op`: the operation of a verb is the one of the vocabulary;
* `Turtle.tells_apply`: an operation tells the truth about what it did;
* `Turtle.dispatch_cases`: the four ways in which a dispatch can go.
-/

namespace TurtleGraphics

open Text (readInt32 NumeralError)

/-- The vocabulary: `Means token args op` if the token `token` with the integers `args` behind it
stands for `op`. -/
inductive Means : String → List Int32 → Op → Prop
  | move (x y : Int32) : Means "mv" [x, y] (.draw (.moveTo x y))
  | face (degrees : Int32) : Means "hd" [degrees] (.draw (.face degrees))
  | forward (distance : Int32) : Means "fw" [distance] (.draw (.forward distance))
  | back (distance : Int32) : Means "bk" [distance] (.draw (.back distance))
  | turnLeft (degrees : Int32) : Means "tl" [degrees] (.draw (.turnLeft degrees))
  | turnRight (degrees : Int32) : Means "tr" [degrees] (.draw (.turnRight degrees))
  | penUp : Means "pu" [] (.draw .penUp)
  | penDown : Means "pd" [] (.draw .penDown)
  | penColor (red green blue : Int32) :
    Means "pc" [red, green, blue] (.draw (.penColor red green blue))
  | background (red green blue : Int32) :
    Means "bg" [red, green, blue] (.background red green blue)
  | reset : Means "rs" [] .reset
  | undo : Means "un" [] .undo
  | rectangle (width height : Int32) : Means "re" [width, height] (.draw (.rectangle width height))

/-- What an `Outcome` of an `Op` says about the turtles `t` before and `t'` after it. -/
inductive Outcome.Tells (t t' : Turtle) : Op → Outcome → Prop
  | appended (m : Move) (grown : t'.history = t.history ++ [m.next t.current])
      (kept : t'.background = t.background) : Tells t t' (.draw m) .appended
  | background (red green blue : Int32) (kept : t'.history = t.history)
      (changed : t'.background = .rgb red green blue) :
      Tells t t' (.background red green blue) .background
  | reset (fresh : t' = .fresh) : Tells t t' .reset .reset
  | undone (shrunk : t.history = t'.history ++ [t.current])
      (kept : t'.background = t.background) : Tells t t' .undo .undone
  | undoExhausted (single : t.history = [t.current]) (fresh : t' = .fresh) :
      Tells t t' .undo .undoExhausted

/-! ## Reading the parameters -/

theorem readParams_eq_ok {params : List String} {args : List Int32}
    (h : args.map Except.ok = params.map readInt32) :
    ∃ hl, readParams params = .ok ⟨args, hl⟩ := by
  induction params generalizing args with
  | nil =>
    obtain rfl : args = [] := by simpa using h
    exact ⟨rfl, rfl⟩
  | cons param params ih =>
    obtain - | ⟨n, args⟩ := args
    · simp at h
    · obtain ⟨hn, ha⟩ := List.cons_eq_cons.1 h
      obtain ⟨hl, he⟩ := ih ha
      refine ⟨by simp [hl], ?_⟩
      simp only [readParams, ← hn, he]

/-- The leftmost `param` that `readInt32` rejects decides the error of `readParams`, whatever is in
`after`. -/
theorem readParams_eq_error {before after : List String} {param : String} {cause : NumeralError}
    (hb : ∀ q ∈ before, ∃ n, readInt32 q = .ok n) (hp : readInt32 param = .error cause) :
    readParams (before ++ param :: after) = .error (.notInteger param cause) := by
  induction before with
  | nil => simp only [List.nil_append, readParams, hp]
  | cons q before ih =>
    obtain ⟨n, hn⟩ := hb q List.mem_cons_self
    have he := ih fun q hq => hb q (List.mem_cons_of_mem _ hq)
    simp only [List.cons_append, readParams, hn, he]

/-- The integers of all of `params`, if `readInt32` accepts each of them. -/
theorem exists_args {params : List String} (h : ∀ p ∈ params, ∃ n, readInt32 p = .ok n) :
    ∃ args : List Int32, args.map Except.ok = params.map readInt32 := by
  induction params with
  | nil => exact ⟨[], rfl⟩
  | cons p params ih =>
    obtain ⟨n, hn⟩ := h p List.mem_cons_self
    obtain ⟨args, ha⟩ := ih fun q hq => h q (List.mem_cons_of_mem _ hq)
    exact ⟨n :: args, by rw [List.map_cons, List.map_cons, hn, ha]⟩

/-- The leftmost of `params` that `readInt32` rejects, if there is one. -/
theorem exists_leftmost {params : List String} (h : ∃ p ∈ params, ∀ n, readInt32 p ≠ .ok n) :
    ∃ before p after cause, params = before ++ p :: after ∧
      (∀ q ∈ before, ∃ n, readInt32 q = .ok n) ∧ readInt32 p = .error cause := by
  induction params with
  | nil => simp at h
  | cons q params ih =>
    cases hq : readInt32 q with
    | error cause => exact ⟨[], q, params, cause, rfl, by simp, hq⟩
    | ok n =>
      obtain ⟨p, hp, hn⟩ := h
      have hp : p ∈ params := by
        refine (List.mem_cons.1 hp).resolve_left ?_
        rintro rfl
        exact hn n hq
      obtain ⟨before, p, after, cause, rfl, hb, he⟩ := ih ⟨p, hp, hn⟩
      refine ⟨q :: before, p, after, cause, rfl, ?_, he⟩
      rintro r (- | ⟨_, hr⟩)
      · exact ⟨n, hq⟩
      · exact hb r hr

namespace Verb

variable {v : Verb} {params : List String}

theorem readArgs_of_length_ne (h : 0 < v.arity) (hl : params.length ≠ v.arity) :
    v.readArgs params = .error (.arity v.arity params.length) := by
  simp only [readArgs, dif_neg (Nat.pos_iff_ne_zero.1 h), dif_neg hl]

theorem readArgs_of_length_eq (h : 0 < v.arity) (hl : params.length = v.arity) :
    v.readArgs params =
      (readParams params).map fun args => ⟨args.1.toArray, by simp [args.2, hl]⟩ := by
  simp only [readArgs, dif_neg (Nat.pos_iff_ne_zero.1 h), dif_pos hl]

/-- `v.readArgs` succeeds if `v` takes no integers, or if `params` are `v.arity` integers. -/
theorem exists_readArgs_eq_ok
    (h : v.arity = 0 ∨ params.length = v.arity ∧ ∀ p ∈ params, ∃ n, readInt32 p = .ok n) :
    ∃ a, v.readArgs params = .ok a ∧
      a.toList.map Except.ok = (if v.arity = 0 then [] else params).map readInt32 := by
  by_cases h0 : v.arity = 0
  · refine ⟨⟨#[], by simp [h0]⟩, by simp only [readArgs, dif_pos h0], ?_⟩
    rw [if_pos h0]
    rfl
  · obtain ⟨hl, hp⟩ := h.resolve_left h0
    obtain ⟨args, ha⟩ := exists_args hp
    obtain ⟨hal, he⟩ := readParams_eq_ok ha
    refine ⟨⟨args.toArray, by simp [hal, hl]⟩, ?_, ?_⟩
    · rw [readArgs_of_length_eq (Nat.pos_of_ne_zero h0) hl, he]
      rfl
    · rw [if_neg h0, ← ha]
      rfl

/-- `v.op` is what the vocabulary gives `v.token`: each integer stands in its own place. -/
theorem means_op (v : Verb) (a : Vector Int32 v.arity) : Means v.token a.toList (v.op a) := by
  obtain ⟨⟨l⟩, hl⟩ := a
  cases v with
  | penUp | penDown | reset | undo =>
    obtain rfl := List.length_eq_zero_iff.1 hl
    constructor
  | face | forward | back | turnLeft | turnRight =>
    obtain ⟨n, rfl⟩ := List.length_eq_one_iff.1 hl
    constructor
  | move | rectangle =>
    obtain ⟨m, n, rfl⟩ := List.length_eq_two.1 hl
    constructor
  | penColor | background =>
    obtain ⟨r, g, b, rfl⟩ := List.length_eq_three.1 hl
    constructor

end Verb

namespace Command

variable {v : Verb} {name : String} {params : List String}

theorem read_of_not_token (h : ∀ v : Verb, v.token ≠ name) :
    read name params = .error (.unrecognized (" ".intercalate (name :: params))) := by
  simp only [read, Verb.ofToken?_eq_none_iff.2 h, joinWords]

theorem read_of_readArgs_error {cause : ParamError} (h : v.readArgs params = .error cause) :
    read v.token params = .error (.malformed (" ".intercalate (v.token :: params)) cause) := by
  simp only [read, Verb.ofToken?_token, h, joinWords]

theorem read_of_readArgs_ok {a : Vector Int32 v.arity} (h : v.readArgs params = .ok a) :
    read v.token params = .ok ⟨v, a⟩ := by
  simp only [read, Verb.ofToken?_token, h]

end Command

namespace Turtle

/-- The outcome of `t.apply op` tells the truth about what it did. -/
theorem tells_apply (t : Turtle) (op : Op) :
    Outcome.Tells t (t.apply op).1 op (t.apply op).2 := by
  cases op with
  | draw m => exact .appended m (history_push t _) rfl
  | background red green blue => exact .background red green blue rfl rfl
  | reset => exact .reset rfl
  | undo =>
    obtain ⟨current, earlier, background⟩ := t
    cases earlier with
    | nil => exact .undoExhausted rfl rfl
    | cons s earlier => exact .undone (by simp [apply, pop?, history]) rfl

/-- `Turtle.dispatch` reads the whole command first. It fails on a `name` that is no token, then on
the number of `params`, then on the leftmost one that `readInt32` rejects, and changes nothing;
otherwise it applies the operation that `Means` gives, and its outcome `Tells` what happened. -/
theorem dispatch_cases (t : Turtle) (name : String) (params : List String) :
    ((∀ v : Verb, v.token ≠ name) →
      t.dispatch name params =
        (t, .error (.unrecognized (" ".intercalate (name :: params))))) ∧
    ∀ v : Verb, v.token = name →
      (0 < v.arity → params.length ≠ v.arity →
        t.dispatch name params =
          (t, .error (.malformed (" ".intercalate (name :: params))
            (.arity v.arity params.length)))) ∧
      (0 < v.arity → params.length = v.arity → (∃ p ∈ params, ∀ n, readInt32 p ≠ .ok n) →
        ∃ before p after cause, params = before ++ p :: after ∧
          (∀ q ∈ before, ∃ n, readInt32 q = .ok n) ∧ readInt32 p = .error cause ∧
          t.dispatch name params =
            (t, .error (.malformed (" ".intercalate (name :: params)) (.notInteger p cause)))) ∧
      (v.arity = 0 ∨ params.length = v.arity ∧ (∀ p ∈ params, ∃ n, readInt32 p = .ok n) →
        ∃ args op, args.map Except.ok = (if v.arity = 0 then [] else params).map readInt32 ∧
          args.length = v.arity ∧ Means name args op ∧
          t.dispatch name params = ((t.apply op).1, .ok (t.apply op).2) ∧
          Outcome.Tells t (t.apply op).1 op (t.apply op).2) := by
  refine ⟨fun hn => ?_, ?_⟩
  · rw [dispatch, Command.read_of_not_token hn, execute]
  rintro v rfl
  refine ⟨fun h0 hl => ?_, fun h0 hl hp => ?_, fun h => ?_⟩
  · rw [dispatch, Command.read_of_readArgs_error (Verb.readArgs_of_length_ne h0 hl), execute]
  · obtain ⟨before, p, after, cause, rfl, hb, he⟩ := exists_leftmost hp
    have ha : v.readArgs (before ++ p :: after) = .error (.notInteger p cause) := by
      rw [Verb.readArgs_of_length_eq h0 hl, readParams_eq_error hb he]
      rfl
    refine ⟨before, p, after, cause, rfl, hb, he, ?_⟩
    rw [dispatch, Command.read_of_readArgs_error ha, execute]
  · obtain ⟨a, hr, ha⟩ := Verb.exists_readArgs_eq_ok h
    refine ⟨a.toList, v.op a, ha, a.length_toList, v.means_op a, ?_, tells_apply t _⟩
    rw [dispatch, Command.read_of_readArgs_ok hr, execute]
    rfl

end Turtle

end TurtleGraphics
