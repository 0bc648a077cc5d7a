import Turtle.Main
import Turtle.Term.Building
import Turtle.Proofs.Combinators
import Turtle.Proofs.Token
import Turtle.Proofs.TokenRule
import Turtle.Proofs.Grammar.Derivation
import Turtle.Proofs.Grammar.Expression
import Turtle.Proofs.Grammar.Completeness
import Turtle.Proofs.Grammar.Acceptance
import Turtle.Proofs.Double
import Turtle.Proofs.Source.Constant
import Turtle.Proofs.Fallible
import Turtle.Proofs.Source.Expression
import Turtle.Proofs.Source.Statement
import Turtle.Proofs.Source.RoundTrip
import Turtle.Proofs.Source.Coverage
import Turtle.Proofs.Drawing
import Turtle.Proofs.BufferedRun
import Turtle.Proofs.Procedures
import Turtle.Proofs.Evaluation.Rules
import Turtle.Proofs.Evaluation.Stop
import Turtle.Proofs.Evaluation.Isolation
import Turtle.Proofs.Evaluation.Frames
import Turtle.Proofs.Evaluation.Origin
import Turtle.Proofs.Evaluation.Bodies
import Turtle.Proofs.Evaluation.Budget
import Turtle.Proofs.Repetition
import Turtle.Proofs.Evaluation.Termination
import Turtle.Proofs.Evaluation.Lockstep
import Turtle.Proofs.Evaluation.Limits
import Turtle.Proofs.Evaluation.Faults
import Turtle.Proofs.Evaluation.Scope
import Turtle.Proofs.Evaluation.Sequencing
import Turtle.Proofs.Evaluation.Unrolling
import Turtle.Proofs.Evaluation.Tally
import Turtle.Proofs.Evaluation.Countdown
import Turtle.Proofs.Evaluation.Kinds
import Turtle.Proofs.Evaluation.Cursor
import Turtle.Proofs.Evaluation.Path
import Turtle.Proofs.Batch
import Turtle.Proofs.Session.Prompt
import Turtle.Proofs.Evaluation.Flatten
import Turtle.Proofs.Grammar.Juxtaposition
import Turtle.Proofs.Grammar.Levels
import Turtle.Proofs.Session.Joining
import Turtle.Proofs.Evaluation.Arguments
import Turtle.Proofs.Files
import Turtle.Proofs.Evaluation.Refusal
import Turtle.Proofs.CommandLine.Saving
import Turtle.Proofs.Grammar.Abort
import Turtle.Proofs.Grammar.Truncation
import Turtle.Proofs.Grammar.Location
import Turtle.Proofs.Grammar.Alternatives
import Turtle.Proofs.Diagnostic.Place
import Turtle.Proofs.Diagnostic.Rejection
import Turtle.Proofs.Diagnostic.Context
import Turtle.Proofs.Diagnostic.Position
import Turtle.Proofs.CommandLine.Escape
import Turtle.Proofs.Session.Escape
import Turtle.Proofs.Combination.Ending
import Turtle.Proofs.Combination.Deferral
import Turtle.Proofs.Grammar.Listing
import Turtle.Proofs.Outline.Flat
import Turtle.Proofs.Outline.Budget
import Turtle.Proofs.Outline.Lines
import Turtle.Proofs.Grammar.Continuation
import Turtle.Proofs.Outline.Faithful
import Turtle.Proofs.Diagnostic.Separation
import Turtle.Proofs.Aborts
import Turtle.Proofs.Folding
import Turtle.Proofs.Grammar.Descent
import Turtle.Proofs.Grammar.Progress
import Turtle.Proofs.Evaluation.Headroom
import Turtle.Proofs.SharedCanvas.Answers
import Turtle.Proofs.SharedCanvas.Exchange
import Turtle.Proofs.SharedCanvas.Service
