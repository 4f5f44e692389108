import Stencil.Main
import Stencil.Sample
import Stencil.Proofs.Program.Meaning
import Stencil.Proofs.Number.Numeral
import Stencil.Proofs.Number.Digits
import Stencil.Proofs.Number.Nearest
import Stencil.Proofs.Number.Fewest
import Stencil.Proofs.Number.Places
import Stencil.Proofs.Number.ReadBack
import Stencil.Proofs.Program.Token
import Stencil.Proofs.Program.Reader
import Stencil.Proofs.Program.Scan
import Stencil.Proofs.Program.ExpressionRoundTrip
import Stencil.Proofs.Program.RoundTrip
import Stencil.Proofs.Program.Names
import Stencil.Proofs.Program.Agreement
import Stencil.Proofs.Source.Segments
import Stencil.Proofs.Source.Recovered
import Stencil.Proofs.Function.Dispatch
import Stencil.Proofs.Render.Transcript
import Stencil.Proofs.Render.Truncation
import Stencil.Proofs.Render.Strictness
import Stencil.Proofs.Value.Concealment
import Stencil.Proofs.Render.Privacy
import Stencil.Proofs.Render.Concatenation
import Stencil.Proofs.FirstFailure
import Stencil.Proofs.Step.Fragment
import Stencil.Proofs.Function.Format
import Stencil.Proofs.Function.Safety
import Stencil.Proofs.Render.Performed
import Stencil.Proofs.FileTree
import Stencil.Proofs.Engine.Rejection
import Stencil.Proofs.CommandLine.Session
import Stencil.Proofs.CommandLine.Steps
import Stencil.Proofs.CommandLine.Diagnosis
import Stencil.Proofs.CommandLine.Effects
import Stencil.Proofs.Source.Lines
import Stencil.Proofs.Source.Forward
import Stencil.Proofs.Source.Stopped
import Stencil.Proofs.Source.Progress
import Stencil.Proofs.Source.WellFormed
import Stencil.Proofs.Engine.Location
import Stencil.Proofs.Program.Registration
import Stencil.Proofs.Text.Lines
import Stencil.Proofs.Program.Generation
import Stencil.Proofs.Program.Layout
import Stencil.Proofs.Program.Content
import Stencil.Proofs.Program.Constants
import Stencil.Proofs.Render.Spelling
import Stencil.Proofs.Render.Piping
import Stencil.Proofs.Value.Walk
import Stencil.Proofs.Function.Printing
import Stencil.Proofs.Number.Displayed
import Stencil.Proofs.Function.Comparison
import Stencil.Proofs.Function.Repetition
import Stencil.Proofs.Value.Resemblance
import Stencil.Proofs.Number.Order
import Stencil.Proofs.Value.Building
import Stencil.Proofs.Value.PathText
import Stencil.Proofs.Value.Sameness
import Stencil.Proofs.CommandLine.Attachment
import Stencil.Proofs.Engine.Labels
import Stencil.Proofs.Function.IntegerPart
