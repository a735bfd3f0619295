import TurtleGraphics.Text.Words
import TurtleGraphics.Text.Lines
import TurtleGraphics.Text.Quoted
import TurtleGraphics.Text.Numeral
import TurtleGraphics.Number.Decimal
import TurtleGraphics.Turtle
import TurtleGraphics.Frame
import TurtleGraphics.Log
import TurtleGraphics.Link
import TurtleGraphics.Window
import TurtleGraphics.Script
import TurtleGraphics.Console
import TurtleGraphics.Shell
import TurtleGraphics.CommandLine.Program
import TurtleGraphics.Main
import TurtleGraphics.Proofs.Command.Dispatch
import TurtleGraphics.Proofs.Frame.Cut
import TurtleGraphics.Proofs.Shell.Effect
import TurtleGraphics.Proofs.Text.Lines
import TurtleGraphics.Proofs.Turtle.Survivors
import TurtleGraphics.Proofs.Shell.Lines
import TurtleGraphics.Proofs.Script.Agreement
import TurtleGraphics.Proofs.Command.Kinds
import TurtleGraphics.Proofs.Window.Blocks
import TurtleGraphics.Proofs.Window.Watched
import TurtleGraphics.Proofs.Shell.Session
import TurtleGraphics.Proofs.Shell.InStep
import TurtleGraphics.Proofs.Console.Turns
import TurtleGraphics.Proofs.Shell.Endings
import TurtleGraphics.Proofs.Turtle.FullTurns
import TurtleGraphics.Proofs.Text.LineEnds
import TurtleGraphics.Proofs.Script.Verdict
import TurtleGraphics.Proofs.CommandLine.Check
import TurtleGraphics.Proofs.Text.Numeral
import TurtleGraphics.Proofs.Text.Words
import TurtleGraphics.Proofs.Log.Record
import TurtleGraphics.Proofs.Turtle.Path
import TurtleGraphics.Proofs.Shell.Scripts
import TurtleGraphics.Proofs.Shell.Quiet
import TurtleGraphics.Proofs.Shell.Preloaded
import TurtleGraphics.Proofs.Shell.Surroundings
import TurtleGraphics.Proofs.Link.Conservation
import TurtleGraphics.Proofs.Window.Delivery
import TurtleGraphics.Proofs.Frame.Growth
import TurtleGraphics.Proofs.Text.Grammar
import TurtleGraphics.Proofs.Command.Parameters
import TurtleGraphics.Proofs.Text.Pieces
import TurtleGraphics.Proofs.Text.Encoding
import TurtleGraphics.Proofs.Console.Waits
import TurtleGraphics.Proofs.Shell.Typed
import TurtleGraphics.Proofs.CommandLine.Typed
import TurtleGraphics.Proofs.Turtle.Heading
import TurtleGraphics.Proofs.Command.Words
import TurtleGraphics.Proofs.Text.Quoted
import TurtleGraphics.Proofs.Shell.Reports
import TurtleGraphics.Proofs.Shell.Slash
import TurtleGraphics.Proofs.Number.Packing
import TurtleGraphics.Proofs.Number.Rounded
import TurtleGraphics.Proofs.Number.Order
import TurtleGraphics.Proofs.Number.Sum
import TurtleGraphics.Proofs.Frame.Boxes
