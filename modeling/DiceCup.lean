import DiceCup.Dice.Expression
import DiceCup.Main
import DiceCup.Notation.Parser
import DiceCup.Notation.Walk
import DiceCup.Program.Folder
import DiceCup.Program.Run
import DiceCup.Random.Face
import DiceCup.Random.KeyStream
import DiceCup.Random.Tape
import DiceCup.Roll.Throw
import DiceCup.Session.Basic
import DiceCup.Text.Quoted
import DiceCup.Proofs.Notation.Reading
import DiceCup.Proofs.Notation.Moving
import DiceCup.Proofs.Notation.Stages
import DiceCup.Proofs.Notation.Simulation
import DiceCup.Proofs.Notation.Layout
import DiceCup.Proofs.Notation.Reach
import DiceCup.Proofs.Notation.Semicolon
import DiceCup.Proofs.Notation.Grammar
import DiceCup.Proofs.Notation.Soundness
import DiceCup.Proofs.Notation.Completeness
import DiceCup.Proofs.Notation.Rendering
import DiceCup.Proofs.Notation.Limits
import DiceCup.Proofs.Roll.Line
import DiceCup.Proofs.Roll.Provenance
import DiceCup.Proofs.Roll.Record
import DiceCup.Proofs.Roll.Exact
import DiceCup.Proofs.Random.Window
import DiceCup.Proofs.Roll.Fairness
import DiceCup.Proofs.Notation.Place
import DiceCup.Proofs.Notation.Refusal
import DiceCup.Proofs.Notation.Viable
import DiceCup.Proofs.Notation.Blame
import DiceCup.Proofs.Session.Continue
import DiceCup.Proofs.Session.Requests
import DiceCup.Proofs.Session.Rounds
import DiceCup.Proofs.Session.Isolation
import DiceCup.Proofs.Session.Plain
import DiceCup.Proofs.Text.Listing
import DiceCup.Proofs.CommandLine.Separator
import DiceCup.Proofs.Program.Asked
import DiceCup.Proofs.Program.Typed
import DiceCup.Proofs.Program.Status
import DiceCup.Proofs.Roll.Attribution
import DiceCup.Proofs.Session.Tracing
import DiceCup.Proofs.CommandLine.Writing
import DiceCup.Proofs.Notation.Walking
import DiceCup.Proofs.Notation.Misses
import DiceCup.Proofs.Session.Copies
import DiceCup.Proofs.Session.Naming
import DiceCup.Proofs.Notation.Repeating
import DiceCup.Proofs.Text.Decoding
import DiceCup.Proofs.Notation.Digits
import DiceCup.Proofs.Roll.Assembly
import DiceCup.Proofs.Session.ResultLine
import DiceCup.Proofs.Text.Quoting
import DiceCup.Proofs.Notation.Message
import DiceCup.Proofs.Notation.Progress
