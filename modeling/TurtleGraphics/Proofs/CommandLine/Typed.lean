import TurtleGraphics.CommandLine.Program
import TurtleGraphics.Proofs.Shell.Typed
import TurtleGraphics.Proofs.Text.Encoding
import TurtleGraphics.Proofs.Text.Pieces

/-!
# The subcommand `shell` at a terminal

The bytes that are entered at the terminal are cut behind each newline, and every piece stands for
itself: it is a line if it is the UTF-8 form of a text, and is reported as skipped if it is not.
`Decodes` says what a session makes of them. The pieces of a text are its lines, the same that a
reader of files gets (`pieceText?_of_ofBytes`).
-/

namespace TurtleGraphics.CommandLine

open Text (IsPieces cutLines strip)

/-- The text whose UTF-8 form is `piece` without its end, if there is one. -/
def pieceText? (piece : List UInt8) : Option String :=
  String.fromUTF8? ⟨(strip 10 13 piece).toArray⟩

/-- What `piece` brings to the terminal: its text as an `Arrival.line`, or `Arrival.undecodable`. -/
def pieceArrival (piece : List UInt8) : Arrival :=
  (pieceText? piece).elim .undecodable .line

/-- What a session of the program makes of `bytes` that are entered at its terminal: the `pieces` of
them, the `steps` that they lead to, how the session ends, and the `messages` that it writes. -/
structure Decodes (bytes : List UInt8) (pieces : List (List UInt8)) (steps : List Step)
    (ending : Ending) (messages : List Message) : Prop where
  cut : IsPieces 10 bytes pieces
  session : ∃ s, Session (Shell.start { console := Terminal.console (Terminal.arrivals bytes) })
    steps ending s ∧ s.console.output.pending = messages
  /-- Without a script, `run` writes the messages of this session. -/
  written : ∀ arguments files, Request.read arguments = .ok (.shell none) →
    run arguments files (Terminal.arrivals bytes) = .ofMessages messages
  /-- The texts among the pieces are carried out in order, up to the first that `Quits`. -/
  lines : steps.map Step.line = throughQuit (pieces.filterMap pieceText?)
  ending_eq : ending = .ofLines (pieces.filterMap pieceText?)
  /-- The messages of `typedEffect` follow the greeting and the first prompt, piece by piece. -/
  transcript : messages = .print Terminal.greeting :: .prompt Terminal.prompt ::
    (Turtle.fresh.typedEffect (some Terminal.prompt) (pieces.map pieceArrival)).messages
  /-- There is one prompt for each of `steps`, and one for the end of the input. -/
  prompts : messages.count (.prompt Terminal.prompt) =
    steps.length + if ending = .inputEnded then 1 else 0
  /-- Each piece without a text in front of the line that `Quits` is reported once. -/
  skipped : messages.count (.printErr Console.lineSkipped) =
    (pieces.takeWhile fun p => ∀ line ∈ pieceText? p, ¬ Quits line).countP
      fun p => (pieceText? p).isNone

theorem pieceText?_eq_some_iff {piece : List UInt8} {text : String} :
    pieceText? piece = some text ↔ text.toUTF8 = ⟨(strip 10 13 piece).toArray⟩ :=
  Text.fromUTF8?_eq_some_iff

theorem arrivals_eq {bytes : List UInt8} {pieces : List (List UInt8)}
    (h : IsPieces 10 bytes pieces) : Terminal.arrivals bytes = pieces.map pieceArrival := by
  rw [Terminal.arrivals, h.cutLines_eq (by decide), List.map_map]
  refine List.map_congr_left fun piece _ => ?_
  rw [Function.comp_apply, Terminal.arrivalOf, pieceArrival, pieceText?]
  split <;> simp_all

section

variable (pieces : List (List UInt8))

theorem legible_map_pieceArrival :
    legible (pieces.map pieceArrival) = pieces.filterMap pieceText? := by
  induction pieces with
  | nil => rfl
  | cons p ps ih =>
    rw [List.map_cons, pieceArrival]
    cases hp : pieceText? p with
    | none => rw [List.filterMap_cons_none hp, ← ih]; rfl
    | some text => rw [List.filterMap_cons_some hp, ← ih]; rfl

theorem count_heeded_map_pieceArrival :
    (heeded (pieces.map pieceArrival)).count .undecodable =
      (pieces.takeWhile fun p => ∀ line ∈ pieceText? p, ¬ Quits line).countP
        fun p => (pieceText? p).isNone := by
  rw [heeded, List.takeWhile_map, List.count, List.countP_map]
  congr 1
  · funext p
    rw [Function.comp_apply, pieceArrival]
    cases pieceText? p <;> rfl
  · congr 1
    funext p
    rw [Function.comp_apply, pieceArrival]
    cases pieceText? p <;> simp [Arrival.line?]

theorem event?_of_mem_map_pieceArrival : ∀ a ∈ pieces.map pieceArrival, a.event? = none := by
  intro a ha
  obtain ⟨p, -, rfl⟩ := List.mem_map.1 ha
  rw [pieceArrival]
  cases pieceText? p <;> rfl

end

/-- The pieces of the UTF-8 form of a text are the lines that `Script.ofBytes` reads. -/
theorem pieceText?_of_ofBytes {bytes : List UInt8} {pieces : List (List UInt8)}
    (h : IsPieces 10 bytes pieces) {lines : List String}
    (hl : Script.ofBytes ⟨bytes.toArray⟩ = .ok lines) :
    pieces.map pieceText? = lines.map some := by
  rw [Script.ofBytes] at hl
  cases ht : String.fromUTF8? ⟨bytes.toArray⟩ with
  | none => simp [ht] at hl
  | some text =>
    obtain rfl : Text.lines text = lines := by simpa [ht] using hl
    have hb : bytes = Text.encode text.toList := by
      have he := Text.fromUTF8?_eq_some_iff.1 ht
      rw [Text.toUTF8_eq] at he
      simpa using he.symm
    have hc : pieces.map (strip 10 13) = (cutLines '\n' '\r' text.toList).map Text.encode := by
      rw [← h.cutLines_eq (by decide), hb, Text.cutLines_encode]
    have hd (cs : List Char) :
        String.fromUTF8? ⟨(Text.encode cs).toArray⟩ = some (String.ofList cs) := by
      rw [Text.fromUTF8?_eq_some_iff, Text.toUTF8_eq, String.toList_ofList]
    calc pieces.map pieceText?
        = (pieces.map (strip 10 13)).map fun p => String.fromUTF8? ⟨p.toArray⟩ := by
          rw [List.map_map]
          rfl
      _ = (Text.lines text).map some := by
          rw [hc, Text.lines, List.map_map, List.map_map]
          exact List.map_congr_left fun cs _ => hd cs

/-! ## The session -/

theorem exists_decodes {bytes : List UInt8} {pieces : List (List UInt8)}
    (hp : IsPieces 10 bytes pieces) :
    ∃ steps ending messages, Decodes bytes pieces steps ending messages := by
  obtain ⟨steps, s, hs, hl, ho⟩ := Shell.exists_typed_start
    (s := { console := Terminal.console [] }) rfl (event?_of_mem_map_pieceArrival pieces)
  have hm : s.console.output.pending = .print Terminal.greeting :: .prompt Terminal.prompt ::
      (Turtle.fresh.typedEffect (some Terminal.prompt) (pieces.map pieceArrival)).messages := by
    rw [ho]
    exact Link.pending_foldl_send rfl rfl _
  have hw : Shell.runWithScript { console := Terminal.console (pieces.map pieceArrival) } [] =
      (_, s) := hs.loop_eq
  rw [legible_map_pieceArrival] at hs hl
  refine ⟨steps, _, _, hp, ⟨s, ?_, hm⟩, ?_, hl, rfl, rfl, ?_, ?_⟩
  · rw [arrivals_eq hp]
    exact hs
  · intro arguments files ha
    rw [run, ha, arrivals_eq hp]
    exact congrArg Exit.ofMessages (hw ▸ hm)
  · rw [List.count_cons_of_ne (by simp), List.count_cons_self, Turtle.count_prompt,
      legible_map_pieceArrival, ← hl, List.length_map]
  · rw [List.count_cons_of_ne (by simp), List.count_cons_of_ne (by simp),
      Turtle.count_lineSkipped, count_heeded_map_pieceArrival]

end TurtleGraphics.CommandLine
