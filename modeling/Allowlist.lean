import Allowlist.Descriptor.Load
import Allowlist.Rule.Check
import Allowlist.Log.Template
import Allowlist.Settings.Assemble
import Allowlist.Proofs.Entries
import Allowlist.Proofs.Position
import Allowlist.Proofs.RuleSet.Results
import Allowlist.Proofs.Escape.Apart
import Allowlist.Proofs.Registry
import Allowlist.Proofs.RuleSet.Clean
import Allowlist.Proofs.RuleSet.Congruence
import Allowlist.Proofs.RuleSet.Idempotence
import Allowlist.Proofs.RuleSet.Retention
import Allowlist.Proofs.RuleSet.Static
import Allowlist.Proofs.Validator.Idempotence
import Allowlist.Proofs.Validator.Provenance
import Allowlist.Proofs.Validator.Retention
import Allowlist.Proofs.Validator.Concealment
import Allowlist.Proofs.Settings.Shared
import Allowlist.Proofs.Log.Redaction
import Allowlist.Proofs.Specifier.Expression
import Allowlist.Proofs.Specifier.Malformed
import Allowlist.Proofs.Escape.Events
import Allowlist.Proofs.Escape.Absorption
import Allowlist.Proofs.Specifier.Concatenation
import Allowlist.Proofs.RuleSet.Calls
import Allowlist.Proofs.RuleSet.Rebuilt
import Allowlist.Proofs.RuleSet.Locality
import Allowlist.Proofs.Registry.Lookups
import Allowlist.Proofs.Descriptor.Texts
import Allowlist.Proofs.Descriptor.Composition
import Allowlist.Proofs.Intervals
import Allowlist.Proofs.Builds
import Allowlist.Proofs.Anonymity
import Allowlist.Proofs.Validator.Faults
import Allowlist.Proofs.Validator.Logging
import Allowlist.Proofs.Log.Nesting
import Allowlist.Proofs.Specifier.Unclosed
import Allowlist.Proofs.Specifier.Decision
import Allowlist.Proofs.Specifier.Enumeration
import Allowlist.Proofs.Chain.Composition
import Allowlist.Proofs.Escape.Rewriting
import Allowlist.Proofs.Settings.Items
