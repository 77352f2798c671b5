import EntityTrust.Base64
import EntityTrust.Chain.Basic
import EntityTrust.Chain.Verdict
import EntityTrust.Chain.Verification
import EntityTrust.Crypto.Ecdsa
import EntityTrust.Crypto.Ed25519
import EntityTrust.Crypto.Modular
import EntityTrust.Crypto.Rsa
import EntityTrust.Crypto.Sha2
import EntityTrust.Decimal.Scaled
import EntityTrust.Decimal.Shortest
import EntityTrust.Discovery.Resolution
import EntityTrust.Discovery.Search
import EntityTrust.Duration
import EntityTrust.Error
import EntityTrust.Fetch.Client
import EntityTrust.Fetch.Error
import EntityTrust.Fetch.Federation
import EntityTrust.Fetch.Request
import EntityTrust.Fetch.Settings
import EntityTrust.Json.Basic
import EntityTrust.Json.Document
import EntityTrust.Json.Issue
import EntityTrust.Json.Lexeme
import EntityTrust.Json.Printer
import EntityTrust.Json.Record
import EntityTrust.Json.Streamed
import EntityTrust.Key.Algorithm
import EntityTrust.Key.Basic
import EntityTrust.Main
import EntityTrust.Service.Endpoint
import EntityTrust.Service.MediaType
import EntityTrust.Service.Payload
import EntityTrust.Service.Query
import EntityTrust.Service.Reply
import EntityTrust.Service.Settings
import EntityTrust.Statement.Basic
import EntityTrust.Statement.Configuration
import EntityTrust.Statement.Core
import EntityTrust.Statement.Location
import EntityTrust.Statement.Metadata
import EntityTrust.Statement.Subordinate
import EntityTrust.Store.Basic
import EntityTrust.Store.Flight
import EntityTrust.Store.Timeline
import EntityTrust.Text.Basic
import EntityTrust.Text.Canonical
import EntityTrust.Text.CanonicalTable
import EntityTrust.Text.Numeral
import EntityTrust.Text.Quoted
import EntityTrust.Text.Ranges
import EntityTrust.Text.Utf8
import EntityTrust.Token.Basic
import EntityTrust.Token.Header
import EntityTrust.Token.Signature
import EntityTrust.TrustMark.Claims
import EntityTrust.TrustMark.Validation
import EntityTrust.Url.Address
import EntityTrust.Url.Basic
import EntityTrust.Url.Domain
import EntityTrust.Url.DomainTable
import EntityTrust.Url.Form
import EntityTrust.Url.Parser
import EntityTrust.Url.Percent
import EntityTrust.Url.Punycode
import EntityTrust.Version
import EntityTrust.Proofs.Lookup
import EntityTrust.Proofs.Outcome
import EntityTrust.Proofs.Token.Compact
import EntityTrust.Proofs.Token.Signature
import EntityTrust.Proofs.Statement.Claims
import EntityTrust.Proofs.Chain.Rules
import EntityTrust.Proofs.Chain.Acceptance
import EntityTrust.Proofs.Chain.Window
import EntityTrust.Proofs.Chain.Shape
import EntityTrust.Proofs.Chain.Accessors
import EntityTrust.Proofs.Chain.Purity
import EntityTrust.Proofs.Chain.Rejection
import EntityTrust.Proofs.Discovery.Run
import EntityTrust.Proofs.Discovery.Climb
import EntityTrust.Proofs.Discovery.Soundness
import EntityTrust.Proofs.Discovery.Subject
import EntityTrust.Proofs.Discovery.Verdict
import EntityTrust.Proofs.Discovery.Pairing
import EntityTrust.Proofs.Discovery.Completeness
import EntityTrust.Proofs.Discovery.Failure
import EntityTrust.Proofs.Discovery.Forest
import EntityTrust.Proofs.Discovery.Journal
import EntityTrust.Proofs.Discovery.Attempt
import EntityTrust.Proofs.Discovery.Traffic
import EntityTrust.Proofs.Discovery.Precedence
import EntityTrust.Proofs.Discovery.Report
import EntityTrust.Proofs.TrustMark.Claims
import EntityTrust.Proofs.TrustMark.Policy
import EntityTrust.Proofs.TrustMark.Delegation
import EntityTrust.Proofs.TrustMark.Listing
import EntityTrust.Proofs.Store.Entries
import EntityTrust.Proofs.Store.Traffic
import EntityTrust.Proofs.Store.Coherence
import EntityTrust.Proofs.Store.SingleFlight
import EntityTrust.Proofs.Store.Overwrite
import EntityTrust.Proofs.Store.Recall
import EntityTrust.Proofs.Store.Expiry
import EntityTrust.Proofs.Store.Recency
import EntityTrust.Proofs.Store.Inclusion
import EntityTrust.Proofs.Fetch.Script
import EntityTrust.Proofs.Fetch.Clients
import EntityTrust.Proofs.Fetch.Undisturbed
import EntityTrust.Proofs.Fetch.Soundness
import EntityTrust.Proofs.Fetch.Provenance
import EntityTrust.Proofs.Fetch.Retry
import EntityTrust.Proofs.Fetch.Failure
import EntityTrust.Proofs.Text.Utf8
import EntityTrust.Proofs.Text.Numeral
import EntityTrust.Proofs.Url.Form
import EntityTrust.Proofs.Service.Dispatch
import EntityTrust.Proofs.Service.MarkEndpoint
import EntityTrust.Proofs.Service.Query
import EntityTrust.Proofs.Json.Object
import EntityTrust.Proofs.Json.Document
import EntityTrust.Proofs.Json.Lossless
import EntityTrust.Proofs.Json.Fields
import EntityTrust.Proofs.Json.Records
import EntityTrust.Proofs.Service.Report
import EntityTrust.Proofs.Key.Codec
import EntityTrust.Proofs.Statement.Metadata
import EntityTrust.Proofs.Statement.Codec
import EntityTrust.Proofs.Fetch.Backoff
import EntityTrust.Proofs.Url.Reading
import EntityTrust.Proofs.Url.WellKnown
import EntityTrust.Proofs.Url.Legible
import EntityTrust.Proofs.Url.Parameter
import EntityTrust.Proofs.Json.Grammar
import EntityTrust.Proofs.Json.Reading
import EntityTrust.Proofs.Text.Base64
import EntityTrust.Proofs.Json.Printing
import EntityTrust.Proofs.Json.Skipping
import EntityTrust.Proofs.Json.Streamed
import EntityTrust.Proofs.Token.Header
import EntityTrust.Proofs.Token.Decoding
