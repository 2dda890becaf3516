import RequestBinding.Main
import RequestBinding.Proofs.CommandLine.Agreement
import RequestBinding.Proofs.CommandLine.ExitCode
import RequestBinding.Proofs.CommandLine.JsonOutput
import RequestBinding.Proofs.CommandLine.LogLines
import RequestBinding.Proofs.CommandLine.MarkerSetting
import RequestBinding.Proofs.CommandLine.Scan
import RequestBinding.Proofs.CommandLine.Verbose
import RequestBinding.Proofs.CommandLine.YamlOutput
import RequestBinding.Proofs.Comment.DistinctMarkers
import RequestBinding.Proofs.Comment.FileContent
import RequestBinding.Proofs.Comment.LineNumber
import RequestBinding.Proofs.Directive.ErrorMessage
import RequestBinding.Proofs.Directive.LastValues
import RequestBinding.Proofs.Directive.Layout
import RequestBinding.Proofs.Directive.Options
import RequestBinding.Proofs.Directive.Printing
import RequestBinding.Proofs.Directive.Progress
import RequestBinding.Proofs.Directive.Violations
import RequestBinding.Proofs.Directive.WellFormed
import RequestBinding.Proofs.Schema.Stability
import RequestBinding.Schema.Validation
