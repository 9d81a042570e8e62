import MatrixHarness.Main
import MatrixHarness.CommandLine.Words
import MatrixHarness.Settings.Written
import MatrixHarness.LocaleFiles
import MatrixHarness.Proofs.History
import MatrixHarness.Proofs.Child.Waiting
import MatrixHarness.Proofs.Pass.Answers
import MatrixHarness.Proofs.Pass.Ends
import MatrixHarness.Proofs.Matrix.Passes
import MatrixHarness.Proofs.Matrix.OneServer
import MatrixHarness.Proofs.Pass.Transitions
import MatrixHarness.Proofs.Mirror
import MatrixHarness.Proofs.Matrix.Interrupt
import MatrixHarness.Proofs.Pass.Failures
import MatrixHarness.Proofs.Matrix.FirstFailure
import MatrixHarness.Proofs.Text.Raw
import MatrixHarness.Proofs.CommandLine.Pasting
import MatrixHarness.Proofs.Arguments.Spelling
import MatrixHarness.Proofs.Arguments.Glance
import MatrixHarness.Proofs.Matrix.Launches
import MatrixHarness.Proofs.Program.ExitCode
import MatrixHarness.Proofs.Toml.Strings
import MatrixHarness.Proofs.Toml.Scalars
import MatrixHarness.Proofs.Toml.Lines
import MatrixHarness.Proofs.Settings.Options
import MatrixHarness.Proofs.Settings.RoundTrip
import MatrixHarness.Proofs.Number.Numerals
import MatrixHarness.Proofs.Arguments.Reading
import MatrixHarness.Proofs.Arguments.Kept
import MatrixHarness.Proofs.Arguments.Exactness
import MatrixHarness.Proofs.Program.ConcurrencyHint
import MatrixHarness.Proofs.Program.OneLocale
import MatrixHarness.Proofs.LocaleFiles.Keys
import MatrixHarness.Proofs.LocaleFiles.Check
import MatrixHarness.Proofs.Child.Deciding
import MatrixHarness.Proofs.Child.Terminating
import MatrixHarness.Proofs.Settings.Acceptance
import MatrixHarness.Proofs.Locale.Resolving
import MatrixHarness.Proofs.Program.Merging
import MatrixHarness.Proofs.Pass.Output
import MatrixHarness.Proofs.Report.Words
import MatrixHarness.Proofs.Program.ConsoleOutput
import MatrixHarness.Proofs.Report.Plain
import MatrixHarness.Proofs.Report.Colours
