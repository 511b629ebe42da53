import SheetLint.Main
import SheetLint.Report.Writer
import SheetLint.Selector.Writer
import SheetLint.Diagnosis.Session
import SheetLint.Proofs.Diagnosis.Session
import SheetLint.Proofs.Json.Numbers
import SheetLint.Proofs.Json.Strings
import SheetLint.Proofs.Outcome.Crash
import SheetLint.Proofs.Json.Reading
import SheetLint.Proofs.Report.Decoding
import SheetLint.Proofs.Report.Conformance
import SheetLint.Proofs.Report.Variants
import SheetLint.Proofs.Json.Occurring
import SheetLint.Proofs.Outcome.Acceptance
import SheetLint.Proofs.Report.Printing
import SheetLint.Proofs.Outcome.RoundTrip
import SheetLint.Proofs.Path.Segments
import SheetLint.Proofs.Path.Parents
import SheetLint.Proofs.FileTree.Following
import SheetLint.Proofs.FileTree.Climbing
import SheetLint.Proofs.FileTree.Joining
import SheetLint.Proofs.Settings.Root
import SheetLint.Proofs.Configuration.Layers
import SheetLint.Proofs.Linter.Program
import SheetLint.Proofs.LintRun.Sorting
import SheetLint.Proofs.Glob.Growth
import SheetLint.Proofs.LintRun.Spelling
import SheetLint.Proofs.LintResult.Totals
import SheetLint.Proofs.Program.ExitStatus
import SheetLint.Proofs.Diagnosis.Channels
import SheetLint.Proofs.LintRun.SavedOutput
import SheetLint.Proofs.Linter.Offset
import SheetLint.Proofs.Rendering.Recovery
import SheetLint.Proofs.LintRun.PlainPaths
import SheetLint.Proofs.LintRun.Names
import SheetLint.Proofs.Diagnostic.Place
import SheetLint.Proofs.Diagnostic.Message
import SheetLint.Proofs.Selector.Reading
import SheetLint.Proofs.StyleBlock.WholeText
import SheetLint.Proofs.Selector.FixedForm
import SheetLint.Proofs.Selector.Parts
import SheetLint.Proofs.Selector.Extensions
import SheetLint.Proofs.Linter.Arguments
import SheetLint.Proofs.Rendering.Colours
