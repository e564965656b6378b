import CloudCensus.Ancestors
import CloudCensus.Asset.Basic
import CloudCensus.Asset.Codec
import CloudCensus.Asset.Kind
import CloudCensus.Census.Calls
import CloudCensus.Census.Operations
import CloudCensus.Config.Basic
import CloudCensus.Config.Check
import CloudCensus.Config.Codec
import CloudCensus.Config.Load
import CloudCensus.Describe
import CloudCensus.Failure
import CloudCensus.Grouping
import CloudCensus.Hierarchy
import CloudCensus.Http.Client
import CloudCensus.Http.Host
import CloudCensus.Http.Service
import CloudCensus.Http.Status
import CloudCensus.Http.Url
import CloudCensus.Json.Number
import CloudCensus.Json.Value
import CloudCensus.Json.Writer
import CloudCensus.Json.Written
import CloudCensus.Ledger
import CloudCensus.Limiter
import CloudCensus.Listing.Merged
import CloudCensus.Listing.Produce
import CloudCensus.Listing.Routes
import CloudCensus.Logging
import CloudCensus.Memo
import CloudCensus.Merge.Merger
import CloudCensus.Merge.Pool
import CloudCensus.Metrics
import CloudCensus.Network
import CloudCensus.Number.Binary64
import CloudCensus.Number.Natural
import CloudCensus.Number.Shortest
import CloudCensus.Queue
import CloudCensus.Register
import CloudCensus.Retry
import CloudCensus.Scope
import CloudCensus.Steps
import CloudCensus.Text.Blank
import CloudCensus.Text.Cut
import CloudCensus.Text.Digits
import CloudCensus.Text.Hidden
import CloudCensus.Text.Quoted
import CloudCensus.Text.Utf8
import CloudCensus.Time.Calendar
import CloudCensus.Time.Duration
import CloudCensus.Time.Instant
import CloudCensus.Time.Rfc3339
import CloudCensus.Wire.Tree
import CloudCensus.Yaml.Block
import CloudCensus.Yaml.Document
import CloudCensus.Yaml.Lexer
import CloudCensus.Yaml.Line
import CloudCensus.Yaml.Node
import CloudCensus.Yaml.Plain
import CloudCensus.Yaml.Quoted
import CloudCensus.Yaml.Token
import CloudCensus.Proofs.Accounts.Identity
import CloudCensus.Proofs.Accounts.Resolve
import CloudCensus.Proofs.Accounts.Run
import CloudCensus.Proofs.Accounts.Transparency
import CloudCensus.Proofs.Ancestors.Course
import CloudCensus.Proofs.Ancestors.Cycle
import CloudCensus.Proofs.Ancestors.Direct
import CloudCensus.Proofs.Ancestors.Listings
import CloudCensus.Proofs.Ancestors.Shared
import CloudCensus.Proofs.Ancestors.Sources
import CloudCensus.Proofs.Ancestors.Visit
import CloudCensus.Proofs.Asset.Absorb
import CloudCensus.Proofs.Asset.RoundTrip
import CloudCensus.Proofs.Census.Bundles
import CloudCensus.Proofs.Census.Cancellation
import CloudCensus.Proofs.Census.Desk
import CloudCensus.Proofs.Census.Networks
import CloudCensus.Proofs.Census.Policies
import CloudCensus.Proofs.Census.Reports
import CloudCensus.Proofs.Census.Requests
import CloudCensus.Proofs.Census.Routines
import CloudCensus.Proofs.Config.Check
import CloudCensus.Proofs.Config.Load
import CloudCensus.Proofs.Grouping
import CloudCensus.Proofs.Grouping.Partition
import CloudCensus.Proofs.Http.Answer
import CloudCensus.Proofs.Http.Call
import CloudCensus.Proofs.Http.Pager
import CloudCensus.Proofs.Http.Paging
import CloudCensus.Proofs.Http.Sends
import CloudCensus.Proofs.Json.Members
import CloudCensus.Proofs.Ledger
import CloudCensus.Proofs.Limiter
import CloudCensus.Proofs.Limiter.Quotas
import CloudCensus.Proofs.Limiter.Waits
import CloudCensus.Proofs.Listing.Breaking
import CloudCensus.Proofs.Listing.Collected
import CloudCensus.Proofs.Listing.Collecting
import CloudCensus.Proofs.Listing.Handover
import CloudCensus.Proofs.Listing.Produce
import CloudCensus.Proofs.Listing.Rounds
import CloudCensus.Proofs.Listing.Sequential
import CloudCensus.Proofs.Listing.Settling
import CloudCensus.Proofs.Listing.Tasks
import CloudCensus.Proofs.Memo
import CloudCensus.Proofs.Memo.Histories
import CloudCensus.Proofs.Merge.Batches
import CloudCensus.Proofs.Merge.Closing
import CloudCensus.Proofs.Merge.Completeness
import CloudCensus.Proofs.Merge.Ending
import CloudCensus.Proofs.Merge.Independence
import CloudCensus.Proofs.Merge.Names
import CloudCensus.Proofs.Merge.Pool
import CloudCensus.Proofs.Merge.Rescan
import CloudCensus.Proofs.Merge.Run
import CloudCensus.Proofs.Merge.Schedule
import CloudCensus.Proofs.Network.Join
import CloudCensus.Proofs.Network.Path
import CloudCensus.Proofs.Number.Order
import CloudCensus.Proofs.Queue
import CloudCensus.Proofs.Retry.Counter
import CloudCensus.Proofs.Retry.Follow
import CloudCensus.Proofs.Retry.Run
import CloudCensus.Proofs.Scope
import CloudCensus.Proofs.Steps
import CloudCensus.Proofs.Text.Cut
import CloudCensus.Proofs.Text.Digits
import CloudCensus.Proofs.Text.Encoding
import CloudCensus.Proofs.Text.Utf8
import CloudCensus.Proofs.Time.Calendar
import CloudCensus.Proofs.Time.Order
import CloudCensus.Proofs.Time.Rfc3339
import CloudCensus.Proofs.Wire.Objects
