import FormRules.Main
import FormRules.Session
import FormRules.Text.Base64
import FormRules.Text.Lowercase
import FormRules.Proofs.Grammar
import FormRules.Proofs.Rendering
import FormRules.Proofs.NormalForm
import FormRules.Proofs.Checks
import FormRules.Proofs.Report
import FormRules.Proofs.RuleSet
import FormRules.Proofs.Judgement
import FormRules.Proofs.Validation
import FormRules.Proofs.Matching
import FormRules.Proofs.Address
import FormRules.Proofs.Literal
import FormRules.Proofs.Rejection
import FormRules.Proofs.RuleFile
import FormRules.Proofs.CheckFiles
import FormRules.Proofs.Loading
import FormRules.Proofs.Resolution
import FormRules.Proofs.Fields
import FormRules.Proofs.Fieldwise
import FormRules.Proofs.Composition
import FormRules.Proofs.Joining
import FormRules.Proofs.Shapes
import FormRules.Proofs.Edits
import FormRules.Proofs.Failures
import FormRules.Proofs.Ledger
import FormRules.Proofs.Nesting
import FormRules.Proofs.Walks
import FormRules.Proofs.Interleaving
import FormRules.Proofs.Bounds
import FormRules.Proofs.Blank
import FormRules.Proofs.Transcript
import FormRules.Proofs.Version
import FormRules.Proofs.Acceptance
import FormRules.Proofs.Conversion
import FormRules.Proofs.Construction
