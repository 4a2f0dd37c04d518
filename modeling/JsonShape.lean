import JsonShape.Main
import JsonShape.Schema.Bench
import JsonShape.Validation.Settings
import JsonShape.Proofs.CommandLine.JsonReport
import JsonShape.Proofs.CommandLine.Labels
import JsonShape.Proofs.CommandLine.Linewise
import JsonShape.Proofs.CommandLine.SameFile
import JsonShape.Proofs.Projection.Absence
import JsonShape.Proofs.Projection.NameSearch
import JsonShape.Proofs.Projection.Nulls
import JsonShape.Proofs.Projection.RoundTrip
import JsonShape.Proofs.Projection.Session
import JsonShape.Proofs.Projection.StableWords
import JsonShape.Proofs.Projection.TypeNames
import JsonShape.Proofs.Projection.UnicodeNames
import JsonShape.Proofs.Projection.WrittenItems
import JsonShape.Proofs.Schema.Front
import JsonShape.Proofs.Schema.Saved
import JsonShape.Proofs.Validation.Cap
import JsonShape.Proofs.Validation.DocumentOrder
import JsonShape.Proofs.Validation.Frame
import JsonShape.Proofs.Validation.Idempotence
import JsonShape.Proofs.Validation.Lookup
import JsonShape.Proofs.Validation.Reordered
import JsonShape.Proofs.Validation.Summaries
