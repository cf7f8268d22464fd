import Rethrow.Analysis
import Rethrow.Candidate
import Rethrow.Command.Help
import Rethrow.Command.Options
import Rethrow.Command.Run
import Rethrow.Configuration
import Rethrow.Discovery
import Rethrow.Edit
import Rethrow.Finding
import Rethrow.Grammar.Draft
import Rethrow.Grammar.Expression
import Rethrow.Grammar.Markup
import Rethrow.Grammar.Member
import Rethrow.Grammar.Omitted
import Rethrow.Grammar.Parse
import Rethrow.Grammar.Program
import Rethrow.Grammar.Scan
import Rethrow.Grammar.Types
import Rethrow.Log
import Rethrow.Main
import Rethrow.Path
import Rethrow.Proofs.Acceptance
import Rethrow.Proofs.Agreement
import Rethrow.Proofs.Alignment
import Rethrow.Proofs.Application
import Rethrow.Proofs.Choice
import Rethrow.Proofs.Convergence
import Rethrow.Proofs.Correspondence
import Rethrow.Proofs.Discovery
import Rethrow.Proofs.Encoding
import Rethrow.Proofs.Extension
import Rethrow.Proofs.Indifference
import Rethrow.Proofs.Inquiry
import Rethrow.Proofs.Keeping
import Rethrow.Proofs.Lapse
import Rethrow.Proofs.Layout
import Rethrow.Proofs.Listing
import Rethrow.Proofs.Loading
import Rethrow.Proofs.Maximality
import Rethrow.Proofs.Naming
import Rethrow.Proofs.Omission
import Rethrow.Proofs.Overlap
import Rethrow.Proofs.Ownership
import Rethrow.Proofs.Patch
import Rethrow.Proofs.Precedence
import Rethrow.Proofs.Quoting
import Rethrow.Proofs.Readability
import Rethrow.Proofs.Recheck
import Rethrow.Proofs.Recognition
import Rethrow.Proofs.Rediscovery
import Rethrow.Proofs.Rejection
import Rethrow.Proofs.Repetition
import Rethrow.Proofs.Replacement
import Rethrow.Proofs.Restriction
import Rethrow.Proofs.Rewriting
import Rethrow.Proofs.Selection
import Rethrow.Proofs.Sequence
import Rethrow.Proofs.Settling
import Rethrow.Proofs.Storage
import Rethrow.Proofs.Stripping
import Rethrow.Proofs.Substitution
import Rethrow.Proofs.Transparency
import Rethrow.Proofs.Traversal
import Rethrow.Proofs.Treatment
import Rethrow.Proofs.Tree
import Rethrow.Proofs.Validation
import Rethrow.Proofs.Verdict
import Rethrow.Proofs.Whereabouts
import Rethrow.Report
import Rethrow.Session
import Rethrow.Settings
import Rethrow.Store
import Rethrow.Syntax
import Rethrow.Text.Basic
import Rethrow.Text.Datum
import Rethrow.Text.LetterCase
import Rethrow.Text.Utf8
import Rethrow.Toml.Atom
import Rethrow.Toml.Document
import Rethrow.Toml.Text
