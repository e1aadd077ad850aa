import ZoneServices.Address
import ZoneServices.Analysis.Analyzer
import ZoneServices.Analysis.Error
import ZoneServices.Analysis.Pass
import ZoneServices.Analysis.Recognition
import ZoneServices.CharacterString
import ZoneServices.CommandLine.Arguments
import ZoneServices.CommandLine.Run
import ZoneServices.Counters
import ZoneServices.Digest.Sha1
import ZoneServices.Directory
import ZoneServices.Domain
import ZoneServices.Json.Fields
import ZoneServices.Json.Reader
import ZoneServices.Json.Token
import ZoneServices.Json.Value
import ZoneServices.Json.Writer
import ZoneServices.Kind.Alias
import ZoneServices.Kind.Builtin
import ZoneServices.Kind.Challenge
import ZoneServices.Kind.Grouping
import ZoneServices.Kind.MailExchangers
import ZoneServices.Kind.Orphan
import ZoneServices.Kind.Server
import ZoneServices.Main
import ZoneServices.Name.Basic
import ZoneServices.Name.Composition
import ZoneServices.Name.Conversion
import ZoneServices.Name.Direction
import ZoneServices.Name.International
import ZoneServices.Name.Joiner
import ZoneServices.Name.Mark
import ZoneServices.Name.Owner
import ZoneServices.Name.Punycode
import ZoneServices.Name.Reader
import ZoneServices.Name.Refusal
import ZoneServices.Payload.Field
import ZoneServices.Payload.Generic
import ZoneServices.Payload.Grammar
import ZoneServices.Payload.Locator
import ZoneServices.Payload.Token
import ZoneServices.Proofs.Address
import ZoneServices.Proofs.Analysis.Claiming
import ZoneServices.Proofs.Analysis.Classification
import ZoneServices.Proofs.Analysis.Conservation
import ZoneServices.Proofs.Analysis.Effect
import ZoneServices.Proofs.Analysis.Group
import ZoneServices.Proofs.Analysis.History
import ZoneServices.Proofs.Analysis.Identity
import ZoneServices.Proofs.Analysis.Kinds
import ZoneServices.Proofs.Analysis.Pass
import ZoneServices.Proofs.Analysis.Permutation
import ZoneServices.Proofs.Analysis.Refinement
import ZoneServices.Proofs.Analysis.Refusal
import ZoneServices.Proofs.Analysis.Spelling
import ZoneServices.Proofs.Analysis.Standing
import ZoneServices.Proofs.Analysis.TtlCounts
import ZoneServices.Proofs.Analysis.Turn
import ZoneServices.Proofs.Analysis.UsualTtl
import ZoneServices.Proofs.CharacterString
import ZoneServices.Proofs.CommandLine.Piping
import ZoneServices.Proofs.Counters
import ZoneServices.Proofs.Domain
import ZoneServices.Proofs.Filing
import ZoneServices.Proofs.Import.Course
import ZoneServices.Proofs.Import.Sequence
import ZoneServices.Proofs.Json.Fields
import ZoneServices.Proofs.Json.Lines
import ZoneServices.Proofs.Json.Normalization
import ZoneServices.Proofs.Json.RoundTrip
import ZoneServices.Proofs.Json.Token
import ZoneServices.Proofs.Kind.Codec
import ZoneServices.Proofs.Name.Absolute
import ZoneServices.Proofs.Name.Ancestry
import ZoneServices.Proofs.Name.Escape
import ZoneServices.Proofs.Name.International
import ZoneServices.Proofs.Name.Label
import ZoneServices.Proofs.Name.Owner
import ZoneServices.Proofs.Name.Reader
import ZoneServices.Proofs.Payload
import ZoneServices.Proofs.Payload.Generic
import ZoneServices.Proofs.Record
import ZoneServices.Proofs.Record.Agreement
import ZoneServices.Proofs.Record.Canonical
import ZoneServices.Proofs.Record.Grammar
import ZoneServices.Proofs.Record.Listing
import ZoneServices.Proofs.Record.Making
import ZoneServices.Proofs.Record.Strings
import ZoneServices.Proofs.RecordType
import ZoneServices.Proofs.Registry.Order
import ZoneServices.Proofs.ServiceId
import ZoneServices.Proofs.Slicing
import ZoneServices.Proofs.Storage.Codec
import ZoneServices.Proofs.Storage.Loading
import ZoneServices.Proofs.Storage.RoundTrip
import ZoneServices.Proofs.Synthesis.Again
import ZoneServices.Proofs.Synthesis.Challenge
import ZoneServices.Proofs.Synthesis.Completeness
import ZoneServices.Proofs.Synthesis.Grouped
import ZoneServices.Proofs.Synthesis.Link
import ZoneServices.Proofs.Synthesis.Locality
import ZoneServices.Proofs.Synthesis.Orphan
import ZoneServices.Proofs.Synthesis.Regeneration
import ZoneServices.Proofs.Synthesis.RoundTrip
import ZoneServices.Proofs.Synthesis.Validity
import ZoneServices.Proofs.Synthesis.Writing
import ZoneServices.Proofs.Text.Base64
import ZoneServices.Proofs.Text.Digits
import ZoneServices.Proofs.Text.Gap
import ZoneServices.Proofs.Text.Letter
import ZoneServices.Proofs.Text.Lines
import ZoneServices.Proofs.Text.Lossy
import ZoneServices.Proofs.Text.Octets
import ZoneServices.Proofs.Text.Slice
import ZoneServices.Proofs.Text.Word
import ZoneServices.Proofs.Timestamp
import ZoneServices.Record.Basic
import ZoneServices.Record.Filter
import ZoneServices.Record.Listing
import ZoneServices.Record.Reader
import ZoneServices.RecordType
import ZoneServices.Registry
import ZoneServices.Service.Basic
import ZoneServices.Service.Catalog
import ZoneServices.Service.Form
import ZoneServices.Service.Id
import ZoneServices.Service.Kind
import ZoneServices.Settings
import ZoneServices.Settings.Reader
import ZoneServices.Text.Base64
import ZoneServices.Text.Basic
import ZoneServices.Text.Number
import ZoneServices.Text.Numeral
import ZoneServices.Text.Utf8
import ZoneServices.Timestamp
import ZoneServices.Wording
import ZoneServices.Workflow
import ZoneServices.Yaml.Basic
import ZoneServices.Yaml.Document
import ZoneServices.Yaml.Line
import ZoneServices.Yaml.Literal
import ZoneServices.Yaml.Property
import ZoneServices.Yaml.Scalar
import ZoneServices.Yaml.Token
import ZoneServices.Zone.Basic
import ZoneServices.Zone.Storage
import ZoneServices.Zone.Synthesis
import ZoneServices.Proofs.Analysis.TtlCounts
