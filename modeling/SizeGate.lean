import SizeGate.FileTree
import SizeGate.Main
import SizeGate.Proofs.CommandLine.Grammar
import SizeGate.Proofs.Config.Schema
import SizeGate.Proofs.ExitCode
import SizeGate.Proofs.MeasuredPath
import SizeGate.Proofs.Json.Grammar
import SizeGate.Proofs.Report
import SizeGate.Proofs.Streams
import SizeGate.Proofs.Json.Reader
import SizeGate.Proofs.Json.Tokens
import SizeGate.Proofs.Json.Exact
import SizeGate.Proofs.Json.Layout
import SizeGate.Proofs.Json.Lines
import SizeGate.Proofs.Report.Decoding
import SizeGate.Proofs.Report.Figures
import SizeGate.Proofs.Report.Agreement
import SizeGate.Proofs.Opening
import SizeGate.Proofs.SameRun
import SizeGate.Proofs.WorkingDirectory
import SizeGate.Proofs.ConfigNaming
import SizeGate.Proofs.Color
import SizeGate.Proofs.Logging
import SizeGate.Proofs.Headroom
import SizeGate.Proofs.Config.Rejection
import SizeGate.Proofs.Config.Warnings
import SizeGate.Proofs.ByteCount.Unit
import SizeGate.Proofs.Discovery.Visits
import SizeGate.Proofs.Config.Written
import SizeGate.Proofs.Repetition
