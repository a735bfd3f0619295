import TurtleGraphics.CommandLine.Program
import TurtleGraphics.Proofs.Script.Verdict

/-!
# The subcommand `check`

The program cuts a file into lines, joins them again and has the result checked, which cuts it into
lines once more. That comes to the same as a check of the file itself (`check_rejoin`), so the exit
status tells whether the commands on its lines succeed (`run_check_verdict`).
-/

namespace TurtleGraphics.CommandLine

open Text (SameUpToEnds StandsAt lines)

theorem check_rejoin (text : String) :
    Script.check ("\n".intercalate (lines text)) = Script.check text :=
  Script.check_of_sameUpToEnds (Text.sameUpToEnds_rejoin text)

theorem run_eq_of_check {arguments : List String} {files : String → Except ReadError ByteArray}
    {file text : String} {verbose : Bool} {bytes : ByteArray} (input : List Arrival)
    (ha : Request.read arguments = .ok (.check file verbose)) (hf : files file = .ok bytes)
    (ht : String.fromUTF8? bytes = some text) :
    run arguments files input =
      match Script.check text with
      | .error e => { status := 1, err := "invalid command file: " ++ e.message ++ "\n" }
      | .ok t =>
        { status := 0
          out := if verbose then "turtle ends at " ++ t.current.describe ++ "\n" else "" } := by
  have hl : scriptLines (files file) = .ok (lines text) := by
    rw [hf, scriptLines]
    simp [Except.bind, Script.ofBytes, ht]
  rw [run, ha]
  simp only [runCheck, hl, check_rejoin]
  cases Script.check text with
  | error e => rfl
  | ok t => cases verbose <;> rfl

end TurtleGraphics.CommandLine
