import BuildScan.Main
import BuildScan.Proofs.Tree
import BuildScan.Proofs.Rejection
import BuildScan.Proofs.Visible
import BuildScan.Proofs.Action
import BuildScan.Proofs.Resolution
import BuildScan.Proofs.TestUnits
import BuildScan.Proofs.Places
import BuildScan.Proofs.PlainText
import BuildScan.Proofs.PlainFile
import BuildScan.Proofs.PlainScan
import BuildScan.Proofs.Discovery
import BuildScan.Proofs.WriteOnce
import BuildScan.Proofs.Lookups
import BuildScan.Proofs.Utf8
import BuildScan.Proofs.PkgConfig
import BuildScan.Proofs.Gating
import BuildScan.Proofs.Json.Literal
import BuildScan.Proofs.Json.Reading
import BuildScan.Proofs.Json.RoundTrip
import BuildScan.Proofs.Json.Sequence
import BuildScan.Proofs.Records
import BuildScan.Proofs.Report
import BuildScan.Proofs.Schedule
import BuildScan.Proofs.Sessions
import BuildScan.Proofs.Endings
import BuildScan.Proofs.Parsing.Stack
import BuildScan.Proofs.Parsing.Run
import BuildScan.Proofs.Reading
import BuildScan.Proofs.Seams
import BuildScan.Proofs.Positions
import BuildScan.Proofs.Recognizing
import BuildScan.Proofs.Pointing
import BuildScan.Proofs.Phases
import BuildScan.Proofs.Groups
import BuildScan.Proofs.Blanks
import BuildScan.Proofs.DirectiveLines
import BuildScan.Proofs.BlockComments
import BuildScan.Proofs.TargetOverride
import BuildScan.Proofs.Composing
import BuildScan.Proofs.Conditions
import BuildScan.Proofs.ExtraTags
import BuildScan.Proofs.SearchOrder
import BuildScan.Proofs.Unique
import BuildScan.Proofs.Repetitions
import BuildScan.Proofs.Invocations
import BuildScan.Proofs.Layers
import BuildScan.Proofs.Boundaries
import BuildScan.Proofs.Cuts
