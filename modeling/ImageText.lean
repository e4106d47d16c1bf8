import ImageText.Decimal.Binary64
import ImageText.Decimal.Shortest
import ImageText.Engine.Serve
import ImageText.Json.Reader
import ImageText.Json.Skip
import ImageText.Main
import ImageText.Options.Reader
import ImageText.Program
import ImageText.Proofs.Bridge
import ImageText.Proofs.CommandLine.Acceptance
import ImageText.Proofs.CommandLine.Grammar
import ImageText.Proofs.Complaint
import ImageText.Proofs.Crossing
import ImageText.Proofs.Decimal.Chain
import ImageText.Proofs.Decimal.Rounding
import ImageText.Proofs.Decimal.Shortest
import ImageText.Proofs.Engine.Ascii
import ImageText.Proofs.Engine.Course
import ImageText.Proofs.Engine.Data
import ImageText.Proofs.Engine.Descriptors
import ImageText.Proofs.Engine.HandedOut
import ImageText.Proofs.Engine.Layout
import ImageText.Proofs.Engine.Legible
import ImageText.Proofs.Engine.Limits
import ImageText.Proofs.Engine.Literal
import ImageText.Proofs.Engine.Noise
import ImageText.Proofs.Engine.Options
import ImageText.Proofs.Engine.Ordinary
import ImageText.Proofs.Engine.Plain
import ImageText.Proofs.Engine.RoundTrip
import ImageText.Proofs.Engine.Spelling
import ImageText.Proofs.ErrorStream
import ImageText.Proofs.Fragment.Faithful
import ImageText.Proofs.Fragment.Ink
import ImageText.Proofs.Fragment.Lines
import ImageText.Proofs.Fragment.Seams
import ImageText.Proofs.Fragment.Shapes
import ImageText.Proofs.Handover
import ImageText.Proofs.Json.Compact
import ImageText.Proofs.Json.Decimal
import ImageText.Proofs.Json.Layout
import ImageText.Proofs.Json.Literal
import ImageText.Proofs.Json.Members
import ImageText.Proofs.Json.Numeral
import ImageText.Proofs.Json.Printer
import ImageText.Proofs.Json.Proper
import ImageText.Proofs.Json.Range
import ImageText.Proofs.Json.ReadBack
import ImageText.Proofs.Json.Scalar
import ImageText.Proofs.Json.Skip
import ImageText.Proofs.Json.Whole
import ImageText.Proofs.Loading
import ImageText.Proofs.Lost
import ImageText.Proofs.Outlet
import ImageText.Proofs.Presentations
import ImageText.Proofs.Program.ExitCode
import ImageText.Proofs.Program.Part
import ImageText.Proofs.Program.Run
import ImageText.Proofs.Program.Streams
import ImageText.Proofs.Rearranged
import ImageText.Proofs.Report
import ImageText.Proofs.Status
import ImageText.Proofs.Steady
import ImageText.Proofs.Text.Kept
import ImageText.Proofs.Text.Lines
import ImageText.Proofs.Text.Scan
import ImageText.Proofs.Text.Trim
import ImageText.Proofs.Unheard
import ImageText.Sink
import ImageText.Stage.Basic
import ImageText.Stage.StandIn
