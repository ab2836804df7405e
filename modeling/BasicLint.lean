import BasicLint.Command.Run
import BasicLint.Main
import BasicLint.Proofs.Text.Cursor
import BasicLint.Proofs.Recognition
import BasicLint.Proofs.Text.LineEnding
import BasicLint.Proofs.Text.Blindness
import BasicLint.Proofs.Rule.Blindness
import BasicLint.Proofs.Findings
import BasicLint.Proofs.LineEnding
import BasicLint.Proofs.Rule.Report
import BasicLint.Proofs.Strictness
import BasicLint.Proofs.WellFormed
import BasicLint.Proofs.Evidence
import BasicLint.Proofs.Filtering
import BasicLint.Proofs.Presets
import BasicLint.Proofs.Accounting
import BasicLint.Proofs.ExitStatus
import BasicLint.Proofs.Options
import BasicLint.Proofs.Exclusion
import BasicLint.Proofs.Path.Ancestors
import BasicLint.Proofs.Resolution
import BasicLint.Proofs.Text.LineWise
import BasicLint.Proofs.Outline
import BasicLint.Proofs.Window
import BasicLint.Proofs.Release
import BasicLint.Proofs.RoundTrip
import BasicLint.Proofs.Surplus
import BasicLint.Proofs.Text.Places
import BasicLint.Proofs.Statements
import BasicLint.Proofs.Accesses
import BasicLint.Proofs.Leniency
import BasicLint.Proofs.Allowance
import BasicLint.Proofs.Grammar
import BasicLint.Proofs.EmptyLines
import BasicLint.Proofs.Decoding
import BasicLint.Proofs.Spans
import BasicLint.Proofs.Locality
import BasicLint.Proofs.Compact
import BasicLint.Proofs.Display
import BasicLint.Proofs.Offsets
