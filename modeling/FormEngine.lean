import FormEngine.Json.Printer
import FormEngine.View
import FormEngine.Form.Document
import FormEngine.Service.Basic
import FormEngine.Checklist.Cache
import FormEngine.Store
import FormEngine.Proofs.Mapping
import FormEngine.Proofs.Form.Agreement
import FormEngine.Proofs.Form.Visibility
import FormEngine.Proofs.Check.Messages
import FormEngine.Proofs.Checklist
import FormEngine.Proofs.Draft.Operation
import FormEngine.Proofs.Draft.Run
import FormEngine.Proofs.Draft.Coherence
import FormEngine.Proofs.Draft.Atomicity
import FormEngine.Proofs.Draft.Submission
import FormEngine.Proofs.Draft.History
import FormEngine.Proofs.Checklist.Recency
import FormEngine.Proofs.Checklist.Compilation
import FormEngine.Proofs.Number.Rounding
import FormEngine.Proofs.Store.Clock
import FormEngine.Proofs.Store.Live
import FormEngine.Proofs.Store.Expiry
import FormEngine.Proofs.Check.Interpretation
import FormEngine.Proofs.Service.Printable
import FormEngine.Proofs.Service.Response
import FormEngine.Proofs.Service.Inquiry
import FormEngine.Proofs.Service.Purpose
import FormEngine.Proofs.Service.Replay
import FormEngine.Proofs.Form.Places
import FormEngine.Proofs.Form.Acceptance
import FormEngine.Proofs.View.Painting
import FormEngine.Proofs.View.Consistency
import FormEngine.Proofs.Calendar.Phrase
import FormEngine.Proofs.Number.Entry
import FormEngine.Proofs.Check.Faults
import FormEngine.Proofs.Draft.Robustness
import FormEngine.Proofs.Form.Conclusion
import FormEngine.Proofs.Form.Stopping
import FormEngine.Proofs.Yaml.Anchors
import FormEngine.Proofs.Yaml.Parts
import FormEngine.Proofs.Yaml.Decoding
import FormEngine.Proofs.Yaml.Faults
import FormEngine.Proofs.Yaml.Merging
import FormEngine.Proofs.Form.Reporting
import FormEngine.Proofs.Json.Whole
import FormEngine.Proofs.Json.Repetition
import FormEngine.Proofs.Draft.Renewal
import FormEngine.Proofs.Draft.Hidden
import FormEngine.Proofs.Service.Refusal
import FormEngine.Proofs.Service.Verdict
import FormEngine.Proofs.Form.Declared
import FormEngine.Proofs.Form.Spelling.Basic
import FormEngine.Proofs.Form.Spelling.Reading
import FormEngine.Proofs.Form.Dump
import FormEngine.Proofs.Value.Sameness
import FormEngine.Proofs.Value.Strictness
import FormEngine.Proofs.Json.Fuel
import FormEngine.Proofs.Json.Arrival
import FormEngine.Proofs.Service.Decoding
import FormEngine.Proofs.Checklist.Independence
import FormEngine.Proofs.Check.Conversion
import FormEngine.Proofs.Checklist.Projection
import FormEngine.Proofs.Draft.Locality
import FormEngine.Proofs.Draft.Batch
import FormEngine.Proofs.Store.Sweep
import FormEngine.Proofs.Form.Conditions
import FormEngine.Proofs.Form.Substitution
import FormEngine.Proofs.Checklist.Copies
import FormEngine.Proofs.Checklist.Questions
import FormEngine.Proofs.Draft.Questions
import FormEngine.Proofs.Checklist.Shelf
import FormEngine.Proofs.Value.Points
import FormEngine.Proofs.Number.Decimal
import FormEngine.Proofs.Pattern.Search
import FormEngine.Proofs.Pattern.Words
import FormEngine.Proofs.Pattern.Comparison
import FormEngine.Proofs.Number.Pattern
import FormEngine.Proofs.Address.Email
import FormEngine.Proofs.Address.Pattern
import FormEngine.Proofs.Number.Nearest
import FormEngine.Proofs.Form.Bounds
import FormEngine.Proofs.Check.Bounds
import FormEngine.Proofs.Check.Emptiness
import FormEngine.Proofs.Draft.Beginning
