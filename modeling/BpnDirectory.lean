import BpnDirectory.Access.Credential
import BpnDirectory.Access.Gate
import BpnDirectory.Access.Identity
import BpnDirectory.Access.Presentation
import BpnDirectory.Access.Verifier
import BpnDirectory.Cache.Basic
import BpnDirectory.Cache.Crash
import BpnDirectory.Cache.Shard
import BpnDirectory.Collection.OrderedMap
import BpnDirectory.Collection.Shelf
import BpnDirectory.Digest.Hash
import BpnDirectory.Digest.Sha2
import BpnDirectory.Directory.Dump
import BpnDirectory.Failure
import BpnDirectory.Http.Coding
import BpnDirectory.Http.Condition
import BpnDirectory.Http.Headers
import BpnDirectory.Http.MediaType
import BpnDirectory.Http.Message
import BpnDirectory.Http.Query
import BpnDirectory.Http.Target
import BpnDirectory.Http.Template
import BpnDirectory.Identifier.Bpn
import BpnDirectory.Identifier.Did
import BpnDirectory.Json.Document
import BpnDirectory.Json.Number
import BpnDirectory.Json.Reading
import BpnDirectory.Json.Token
import BpnDirectory.Json.Value
import BpnDirectory.Json.Writer
import BpnDirectory.Key.Algorithm
import BpnDirectory.Key.Basic
import BpnDirectory.Key.Der
import BpnDirectory.Key.Pem
import BpnDirectory.Key.Ring
import BpnDirectory.Mapping.PageToken
import BpnDirectory.Mapping.Record
import BpnDirectory.Numeric.Binary64
import BpnDirectory.Pattern.Basic
import BpnDirectory.Pattern.Bracket
import BpnDirectory.Pattern.Escape
import BpnDirectory.Pattern.Reading
import BpnDirectory.Pattern.Support
import BpnDirectory.Process.Program
import BpnDirectory.Proofs.Access.CredentialOrder
import BpnDirectory.Proofs.Access.Presentations
import BpnDirectory.Proofs.Cache.Capacity
import BpnDirectory.Proofs.Cache.Hits
import BpnDirectory.Proofs.Directory.Dump
import BpnDirectory.Proofs.Identifier.Octets
import BpnDirectory.Proofs.Key.Families
import BpnDirectory.Proofs.Resolver.Backoff
import BpnDirectory.Proofs.Resolver.Batches
import BpnDirectory.Proofs.Resolver.DumpFreshness
import BpnDirectory.Proofs.Resolver.Listing
import BpnDirectory.Proofs.Resolver.Monotonicity
import BpnDirectory.Proofs.Resolver.OwnChanges
import BpnDirectory.Proofs.Resolver.Race
import BpnDirectory.Proofs.Resolver.Reconciliation
import BpnDirectory.Proofs.Resolver.Refusals
import BpnDirectory.Proofs.Resolver.Registrations
import BpnDirectory.Proofs.Resolver.Staleness
import BpnDirectory.Proofs.Resolver.Transparency
import BpnDirectory.Proofs.Resolver.Updates
import BpnDirectory.Proofs.Schedule.Stalling
import BpnDirectory.Proofs.Service.ActiveRequests
import BpnDirectory.Proofs.Service.Callers
import BpnDirectory.Proofs.Service.EntityTags
import BpnDirectory.Proofs.Service.ManagementKey
import BpnDirectory.Proofs.Service.PageSizes
import BpnDirectory.Proofs.Service.Writes
import BpnDirectory.Proofs.Store.ReadBack
import BpnDirectory.Resolver.Attempt
import BpnDirectory.Resolver.Backoff
import BpnDirectory.Resolver.Node
import BpnDirectory.Resolver.Policy
import BpnDirectory.Resolver.Reads
import BpnDirectory.Resolver.Upkeep
import BpnDirectory.Resolver.Writes
import BpnDirectory.Schedule.Heartbeat
import BpnDirectory.Schedule.Timetable
import BpnDirectory.Service.Background
import BpnDirectory.Service.Exchange
import BpnDirectory.Service.Handler
import BpnDirectory.Service.Health
import BpnDirectory.Service.Management
import BpnDirectory.Service.Payload
import BpnDirectory.Service.Resolution
import BpnDirectory.Service.Route
import BpnDirectory.Service.Server
import BpnDirectory.Service.Startup
import BpnDirectory.Settings.Basic
import BpnDirectory.Settings.Check
import BpnDirectory.Settings.Environment
import BpnDirectory.Settings.LogFilter
import BpnDirectory.Store.Backend
import BpnDirectory.Store.Contract
import BpnDirectory.Store.Damage
import BpnDirectory.Store.DatabaseError
import BpnDirectory.Store.Link
import BpnDirectory.Store.Memory
import BpnDirectory.Store.Tables
import BpnDirectory.Telemetry
import BpnDirectory.Text.Alphanumeric
import BpnDirectory.Text.Base64
import BpnDirectory.Text.Blank
import BpnDirectory.Text.Decimal
import BpnDirectory.Text.Excerpt
import BpnDirectory.Text.Hexadecimal
import BpnDirectory.Text.Parts
import BpnDirectory.Text.Real
import BpnDirectory.Text.Utf8
import BpnDirectory.Time.Compact
import BpnDirectory.Time.Date
import BpnDirectory.Time.Duration
import BpnDirectory.Time.Instant
import BpnDirectory.Time.Reading
import BpnDirectory.Time.Span
import BpnDirectory.Token.Basic
import BpnDirectory.Token.Claims
import BpnDirectory.Token.EmbeddedKey
import BpnDirectory.Token.Verification
