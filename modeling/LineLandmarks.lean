import LineLandmarks.Json.Reader
import LineLandmarks.Main
import LineLandmarks.Proofs.Document
import LineLandmarks.Proofs.Landmarks
import LineLandmarks.Proofs.Report.Json
import LineLandmarks.Proofs.Report.Text
import LineLandmarks.Proofs.RuleFile.Settings
import LineLandmarks.Proofs.Toml.Entries
import LineLandmarks.Proofs.Toml.Lines
import LineLandmarks.Report.Output
import LineLandmarks.RuleFile.Writer
import LineLandmarks.Proofs.RuleFile.RoundTrip
import LineLandmarks.Proofs.Toml.Order
import LineLandmarks.Proofs.Toml.DocumentOrder
import LineLandmarks.Proofs.Toml.Reading
import LineLandmarks.Proofs.RuleFile.Outcome
import LineLandmarks.Proofs.CommandLine.Run
import LineLandmarks.Proofs.Inspection
import LineLandmarks.Proofs.BlockEnd
import LineLandmarks.Proofs.TrimmedLines
import LineLandmarks.Proofs.RuleFile.Places
import LineLandmarks.Proofs.Text.Utf8
import LineLandmarks.Proofs.Loading
import LineLandmarks.Proofs.CommandLine.Arguments
