import SpecLint.Json.Config
import SpecLint.Json.Reader
import SpecLint.Main
import SpecLint.Proofs.Landmark.Rescan
import SpecLint.Proofs.Spec.Document
import SpecLint.Proofs.Text.Lowercase
import SpecLint.Proofs.Rules.Phrase
import SpecLint.Proofs.Rules.Lines
import SpecLint.Proofs.Check.Field
import SpecLint.Proofs.Check.Evolution
import SpecLint.Proofs.Lint.Acceptance
import SpecLint.Proofs.Lint.Matching
import SpecLint.Proofs.Lint.Padding
import SpecLint.Proofs.Landmark.Compose
import SpecLint.Proofs.Lint.Inert
import SpecLint.Proofs.Check.References
import SpecLint.Proofs.Lint.Order
import SpecLint.Proofs.Lint.Locality
import SpecLint.Proofs.Check.Builtins
import SpecLint.Proofs.Rules.Branches
import SpecLint.Proofs.Lint.Relaxation
import SpecLint.Proofs.Config.Saved
import SpecLint.Proofs.Json.Record
import SpecLint.Proofs.Files.Directory
import SpecLint.Proofs.CommandLine.ExitCode
import SpecLint.Proofs.Spec.Append
import SpecLint.Proofs.Rules.Clauses
import SpecLint.Proofs.Rules.Coverage
import SpecLint.Proofs.Check.EvolutionCodes
import SpecLint.Proofs.Check.LastLine
import SpecLint.Proofs.Lint.RuleLimits
import SpecLint.Proofs.Rules.Items
import SpecLint.Proofs.Landmark.Visible
import SpecLint.Proofs.Landmark.Survival
import SpecLint.Proofs.Lint.Letters
import SpecLint.Proofs.Lint.Restriction
import SpecLint.Proofs.Render.Lines
import SpecLint.Proofs.Render.Colour
import SpecLint.Proofs.Render.Totals
import SpecLint.Proofs.CommandLine.StandardInput
import SpecLint.Proofs.Files.Extension
import SpecLint.Proofs.CommandLine.Effective
