import Intake.Document.Page
import Intake.Document.Sample
import Intake.Engine.Demand
import Intake.Engine.Quick
import Intake.Engine.Settings
import Intake.Field.Draft
import Intake.Field.Environment
import Intake.Report.Redaction
import Intake.Tool.Registry
import Intake.Proofs.Condition.Grammar
import Intake.Proofs.Condition.Reading
import Intake.Proofs.Condition.Language
import Intake.Proofs.Validation.Acceptance
import Intake.Proofs.Engine.Eviction
import Intake.Proofs.Engine.History
import Intake.Proofs.Engine.Faithful
import Intake.Proofs.Engine.Run
import Intake.Proofs.Engine.Transparency
import Intake.Proofs.Number.Shortest
import Intake.Proofs.Number.Text
import Intake.Proofs.Json.Scalar
import Intake.Proofs.Json.Canonical
import Intake.Proofs.Json.Alike
import Intake.Proofs.Field.Written
import Intake.Proofs.Field.Place
import Intake.Proofs.Validation.Recompile
import Intake.Proofs.Validation.Effect
import Intake.Proofs.Validation.Locality
import Intake.Proofs.Validation.Probe
import Intake.Proofs.Validation.Order
import Intake.Proofs.Engine.Interchange
import Intake.Proofs.Engine.CacheRun
import Intake.Proofs.Engine.Recall
import Intake.Proofs.Engine.Capacity
import Intake.Proofs.Engine.Phases
import Intake.Proofs.Field.Location
import Intake.Proofs.Validation.Secrecy
import Intake.Proofs.Validation.Exposure
import Intake.Proofs.Engine.Secrecy
import Intake.Proofs.Validation.Parts
import Intake.Proofs.Validation.Truncation
import Intake.Proofs.Validation.Presentation
import Intake.Proofs.Engine.Metrics
import Intake.Proofs.Engine.Atomicity
import Intake.Proofs.Engine.Demand
import Intake.Proofs.Declaration.Rereading
import Intake.Proofs.Field.Nested
import Intake.Proofs.Field.RoundTrip
import Intake.Proofs.Schema.RoundTrip
import Intake.Proofs.Results
import Intake.Proofs.Validation.Independence
import Intake.Proofs.Validation.Failing
import Intake.Proofs.Condition.Evaluation
import Intake.Proofs.Schema.RuleOutcome
import Intake.Proofs.Engine.Verdict
import Intake.Proofs.Engine.FieldTest
import Intake.Proofs.Validation.Malformed
import Intake.Proofs.Condition.Reference
import Intake.Proofs.Validation.Codes
import Intake.Proofs.Document.Fragment
import Intake.Proofs.Document.Bounds
import Intake.Proofs.Document.Required
import Intake.Proofs.Document.Choices
import Intake.Proofs.Document.Sample
import Intake.Proofs.Document.SampleFit
import Intake.Proofs.Document.SampleRequest
import Intake.Proofs.Document.Secrecy
import Intake.Proofs.Tool.RegistryRun
import Intake.Proofs.Validation.ToldByCode
import Intake.Proofs.Validation.Reticence
import Intake.Proofs.Report.Redaction
import Intake.Proofs.Report.Masking
import Intake.Proofs.Condition.Laws
import Intake.Proofs.Condition.Spelling
import Intake.Proofs.Condition.Scanning
import Intake.Proofs.Condition.Quotation
import Intake.Proofs.Condition.Composition
import Intake.Proofs.Json.Sameness
import Intake.Proofs.Validation.Repetition
import Intake.Proofs.Validation.Pointing
import Intake.Proofs.Validation.Temporal
import Intake.Proofs.Validation.Output
import Intake.Proofs.Validation.Stability
import Intake.Proofs.Text.Parts
import Intake.Proofs.Text.Language
import Intake.Proofs.Json.Truth
import Intake.Proofs.Format.Language
import Intake.Proofs.Format.Exactness
import Intake.Proofs.Format.Url
import Intake.Proofs.Calendar.Order
import Intake.Proofs.Calendar.IsoText
import Intake.Proofs.Validation.Range
import Intake.Proofs.Validation.Precision
import Intake.Proofs.Validation.Interchange
import Intake.Proofs.Number.Integer
import Intake.Proofs.Number.Places
import Intake.Proofs.Field.Environment
import Intake.Proofs.Json.Rereading
import Intake.Proofs.Json.RoundTrip
import Intake.Proofs.Validation.Ownership
import Intake.Proofs.Field.Label
import Intake.Proofs.Validation.Wording
import Intake.Proofs.Validation.Rewording
import Intake.Proofs.Validation.Addressing
import Intake.Proofs.Schema.Listing
import Intake.Proofs.Schema.Making
import Intake.Proofs.Validation.Fallback
import Intake.Proofs.JsonSchema.Numbers
import Intake.Proofs.JsonSchema.Agreement
import Intake.Proofs.Validation.Loading
import Intake.Proofs.Field.Footprint
import Intake.Proofs.Field.Chain
