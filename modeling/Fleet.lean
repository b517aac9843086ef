import Fleet.Artifact
import Fleet.Audit
import Fleet.Azure.AccessSignature
import Fleet.Azure.Account
import Fleet.Azure.Storage
import Fleet.Catalog
import Fleet.Codec.Basic
import Fleet.Codec.Config
import Fleet.Codec.Context
import Fleet.Codec.Deployment
import Fleet.Codec.Record
import Fleet.Config.Basic
import Fleet.Config.Build
import Fleet.Config.Check
import Fleet.Config.Load
import Fleet.Context
import Fleet.Deployment
import Fleet.Hash.Base64
import Fleet.Hash.Mac
import Fleet.Hash.Sha256
import Fleet.Http.Exchange
import Fleet.Http.Redirect
import Fleet.Http.Status
import Fleet.Inventory
import Fleet.Json.Basic
import Fleet.Json.Decode
import Fleet.Json.Parser
import Fleet.Json.Printer
import Fleet.Link
import Fleet.Model.Create
import Fleet.Model.Device
import Fleet.Model.Error
import Fleet.Model.Fault
import Fleet.Model.Lifecycle
import Fleet.Model.Run
import Fleet.Model.World
import Fleet.Objects.Error
import Fleet.Objects.Memory
import Fleet.Objects.Payload
import Fleet.Objects.Service
import Fleet.Proofs.Audit.Replay
import Fleet.Proofs.Azure.AccessSignature
import Fleet.Proofs.Azure.Account
import Fleet.Proofs.Azure.Address
import Fleet.Proofs.Azure.Connection
import Fleet.Proofs.Azure.Request
import Fleet.Proofs.Azure.Upload
import Fleet.Proofs.Codec.Accepted
import Fleet.Proofs.Codec.Exchange
import Fleet.Proofs.Codec.RoundTrip
import Fleet.Proofs.Config.Build
import Fleet.Proofs.Config.Sections
import Fleet.Proofs.Deployment.Phase
import Fleet.Proofs.Deployment.Progress
import Fleet.Proofs.Deployment.Stamps
import Fleet.Proofs.Hash.Base64
import Fleet.Proofs.Http.Exchange
import Fleet.Proofs.Json.RoundTrip
import Fleet.Proofs.Model.Agreement
import Fleet.Proofs.Model.Attempt
import Fleet.Proofs.Model.Commute
import Fleet.Proofs.Model.Create
import Fleet.Proofs.Model.Device
import Fleet.Proofs.Model.Effect
import Fleet.Proofs.Model.Execution
import Fleet.Proofs.Model.Failing
import Fleet.Proofs.Model.Fitness
import Fleet.Proofs.Model.Isolation
import Fleet.Proofs.Model.Lasting
import Fleet.Proofs.Model.Lifecycle
import Fleet.Proofs.Model.Logs
import Fleet.Proofs.Model.Opening
import Fleet.Proofs.Model.Polls
import Fleet.Proofs.Model.Questions
import Fleet.Proofs.Model.Recovery
import Fleet.Proofs.Model.Refinement
import Fleet.Proofs.Model.Refusal
import Fleet.Proofs.Model.Report
import Fleet.Proofs.Model.Retry
import Fleet.Proofs.Model.Rollback
import Fleet.Proofs.Model.Runs
import Fleet.Proofs.Model.Stamps
import Fleet.Proofs.Model.Trail
import Fleet.Proofs.Model.Verdict
import Fleet.Proofs.Objects.AtOnce
import Fleet.Proofs.Objects.Expiry
import Fleet.Proofs.Objects.Isolation
import Fleet.Proofs.Objects.Links
import Fleet.Proofs.Objects.Pieces
import Fleet.Proofs.Objects.Transfer
import Fleet.Proofs.Objects.Upload
import Fleet.Proofs.Query.Pages
import Fleet.Proofs.Query.Search
import Fleet.Proofs.S3.Request
import Fleet.Proofs.S3.Upload
import Fleet.Proofs.Stats.Moves
import Fleet.Proofs.Stats.Tally
import Fleet.Proofs.Store.Atomicity
import Fleet.Proofs.Store.Consistency
import Fleet.Proofs.Store.Entries
import Fleet.Proofs.Store.InPlace
import Fleet.Proofs.Store.Isolation
import Fleet.Proofs.Store.Lasting
import Fleet.Proofs.Store.Mirror
import Fleet.Proofs.Store.Oldest
import Fleet.Proofs.Store.Partition
import Fleet.Proofs.Store.Reached
import Fleet.Proofs.Store.Refinement
import Fleet.Proofs.Store.Sessions
import Fleet.Proofs.Store.Statements
import Fleet.Proofs.Table.Lookup
import Fleet.Proofs.Table.Slice
import Fleet.Proofs.Text.Digits
import Fleet.Proofs.Text.Lowercase
import Fleet.Proofs.Text.Markup
import Fleet.Proofs.Text.Split
import Fleet.Proofs.Text.Utf8
import Fleet.Proofs.Time.Accepted
import Fleet.Proofs.Time.Calendar
import Fleet.Proofs.Time.Rfc3339
import Fleet.Proofs.Time.Stamp
import Fleet.Proofs.Url.Append
import Fleet.Proofs.Url.Form
import Fleet.Proofs.Url.Path
import Fleet.Proofs.Url.Percent
import Fleet.Proofs.Url.Rebase
import Fleet.Query
import Fleet.Record
import Fleet.S3.SignedLink
import Fleet.S3.Storage
import Fleet.S3.Target
import Fleet.Settings
import Fleet.Stats
import Fleet.Status
import Fleet.Store.Call
import Fleet.Store.Error
import Fleet.Store.File
import Fleet.Store.InPlace
import Fleet.Store.Memory
import Fleet.Store.Opening
import Fleet.Store.Relational
import Fleet.Table.Basic
import Fleet.Table.Lemmas
import Fleet.Text.Blank
import Fleet.Text.CaseTable
import Fleet.Text.Digits
import Fleet.Text.Lowercase
import Fleet.Text.Markup
import Fleet.Text.PrintTable
import Fleet.Text.Quoted
import Fleet.Text.Ranges
import Fleet.Text.Search
import Fleet.Text.Utf8
import Fleet.Time.Calendar
import Fleet.Time.Instant
import Fleet.Time.MailDate
import Fleet.Time.Rfc3339
import Fleet.Time.Stamp
import Fleet.Toml.Parser
import Fleet.Toml.Scalar
import Fleet.Toml.Tree
import Fleet.Url.Basic
import Fleet.Url.Form
import Fleet.Url.Host
import Fleet.Url.Path
import Fleet.Url.Percent
import Fleet.Url.Punycode
import Fleet.Url.Rebase
import Fleet.Validation
