import ExternalFields.Main
import ExternalFields.Proofs.Field.Occurrence
import ExternalFields.Proofs.Injection.Content
import ExternalFields.Proofs.Field.Pruning
import ExternalFields.Proofs.Injection.Survival
import ExternalFields.Proofs.Field.Entries
import ExternalFields.Proofs.Field.RoundTrip
import ExternalFields.Proofs.Definition.Named
import ExternalFields.Proofs.Injection.Idempotence
import ExternalFields.Proofs.FieldPath
import ExternalFields.Proofs.Definition.Places
import ExternalFields.Proofs.Definition.Flattening
import ExternalFields.Proofs.Injection.Failure
import ExternalFields.Proofs.Injection.Changed
import ExternalFields.Proofs.Injection.Layouts
import ExternalFields.Proofs.Files.Making
import ExternalFields.Proofs.Schema.CacheRuns
import ExternalFields.Proofs.Files.Spelling
import ExternalFields.Proofs.Files.Written
import ExternalFields.Proofs.Schema.Confinement
import ExternalFields.Proofs.Schema.Versions
import ExternalFields.Proofs.Text.Utf8
import ExternalFields.Proofs.Files.Names
import ExternalFields.Proofs.Files.Listing
import ExternalFields.Proofs.Package.FieldsFiles
import ExternalFields.Proofs.Actions
import ExternalFields.Proofs.CommandLine.Rendering
import ExternalFields.Proofs.Package.Build
import ExternalFields.Proofs.CommandLine.Messages
import ExternalFields.Proofs.Text.Templates
import ExternalFields.Proofs.CommandLine.Failures
import ExternalFields.Proofs.CommandLine.Reports
import ExternalFields.Proofs.Files.Errors
import ExternalFields.Proofs.Definition.Records
import ExternalFields.Proofs.Field.Documents
import ExternalFields.Proofs.Injection.Remarking
import ExternalFields.Proofs.Schema.Interleaving
import ExternalFields.Proofs.Injection.Explicit
import ExternalFields.Proofs.Manifest.Scaffolding
import ExternalFields.Proofs.Files.Obstacles
import ExternalFields.Proofs.Schema.Traces
import ExternalFields.Proofs.Yaml.Strokes
import ExternalFields.Proofs.Yaml.Outlines
import ExternalFields.Proofs.Yaml.Documents
import ExternalFields.Proofs.CommandLine.Injecting
import ExternalFields.Proofs.Field.Ungrouping
import ExternalFields.Proofs.Injection.Ungrouping
import ExternalFields.Proofs.Definition.RoundTrip
import ExternalFields.Proofs.Definition.Layouts
import ExternalFields.Proofs.DocumentErrors
import ExternalFields.Proofs.Attributes
import ExternalFields.Proofs.Definition.Grammar
import ExternalFields.Proofs.Field.Projection
import ExternalFields.Proofs.Text.Blanks
import ExternalFields.Proofs.Manifest.References
import ExternalFields.Proofs.Manifest.Registering
