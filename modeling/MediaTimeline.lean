import MediaTimeline.Text.Printable
import MediaTimeline.Text.Quoted
import MediaTimeline.Text.Blank
import MediaTimeline.Text.Utf8
import MediaTimeline.Text.Base64
import MediaTimeline.Text.Case
import MediaTimeline.Time.Stamp
import MediaTimeline.Time.Range
import MediaTimeline.Time.Range.Text
import MediaTimeline.Json.Value
import MediaTimeline.Json.Read
import MediaTimeline.Json.Decode
import MediaTimeline.Json.Source
import MediaTimeline.Segment
import MediaTimeline.Fault
import MediaTimeline.Paging
import MediaTimeline.Text.Path
import MediaTimeline.Text.Infix
import MediaTimeline.Sql.Schema
import MediaTimeline.Sql.Migrations
import MediaTimeline.Sql.Dialect
import MediaTimeline.Cleanup.Batches
import MediaTimeline.Events.Event
import MediaTimeline.Deletion.Trim
import MediaTimeline.Flow
import MediaTimeline.Deletion.Request
import MediaTimeline.Store.Basic
import MediaTimeline.Store.Query
import MediaTimeline.Tasks.Task
import MediaTimeline.Tasks.Queue
import MediaTimeline.Cache
import MediaTimeline.Blobs
import MediaTimeline.Service.Basic
import MediaTimeline.Service.Index
import MediaTimeline.Service.Notify
import MediaTimeline.Service.Flows
import MediaTimeline.Service.Segments
import MediaTimeline.Service.Deletion
import MediaTimeline.Deletion.Engine
import MediaTimeline.Tasks.Handlers
import MediaTimeline.Tasks.Worker
import MediaTimeline.Tasks.Inline
import MediaTimeline.Settings.Number
import MediaTimeline.Settings.Duration
import MediaTimeline.Settings.CommaRecord
import MediaTimeline.Settings.Option
import MediaTimeline.Settings.Double
import MediaTimeline.Cli.Version
import MediaTimeline.Rpc.Basic
import MediaTimeline.Rpc.Media
import MediaTimeline.Rpc.Stateless
import MediaTimeline.Rpc.Alias
import MediaTimeline.Rpc.Session
import MediaTimeline.Rpc.Cache
import MediaTimeline.Rpc.Queue
import MediaTimeline.Rpc.Api
import MediaTimeline.Host
import MediaTimeline.Rpc.Call
import MediaTimeline.Host.Address
import MediaTimeline.Host.Paths
import MediaTimeline.Time.Jitter
import MediaTimeline.Cli.Settings
import MediaTimeline.Deployment
import MediaTimeline.Logging
import MediaTimeline.Events.Config
import MediaTimeline.Events.Publisher
import MediaTimeline.Rpc.Host
import MediaTimeline.Rpc.Events
import MediaTimeline.Storage.Backend
import MediaTimeline.Storage.Manager
import MediaTimeline.Sql.Pool
import MediaTimeline.Rpc.Storage
import MediaTimeline.Time.Civil
import MediaTimeline.Time.Instant
import MediaTimeline.Time.Rfc3339
import MediaTimeline.Time.Zones
import MediaTimeline.Sql.Value
import MediaTimeline.Sql.Script
import MediaTimeline.Sql.Documents
import MediaTimeline.Sql.Statements
import MediaTimeline.Sql.Store
import MediaTimeline.Rpc.Sql
import MediaTimeline.Tasks.Table
import MediaTimeline.Rpc.TaskTable
import MediaTimeline.Config.Value
import MediaTimeline.Config.Yaml
import MediaTimeline.Cli.Flags
import MediaTimeline.Cli.Commands
import MediaTimeline.Config.Cast
import MediaTimeline.Host.Dial
import MediaTimeline.Text.Url
import MediaTimeline.Connect.Certificate
import MediaTimeline.Connect.Mysql
import MediaTimeline.Connect.Postgres
import MediaTimeline.Config.Decode
import MediaTimeline.Cli.Run
import MediaTimeline.Rpc.Cli
import MediaTimeline.Main
import MediaTimeline.Proofs.Bookkeeping
import MediaTimeline.Proofs.RangeKeys
import MediaTimeline.Proofs.SegmentIndex
import MediaTimeline.Proofs.Insertion
import MediaTimeline.Proofs.Removal
import MediaTimeline.Proofs.IndexInvariant
import MediaTimeline.Proofs.Batches
import MediaTimeline.Proofs.DeletionSafety
import MediaTimeline.Proofs.Pagination
import MediaTimeline.Proofs.TextCodecs
import MediaTimeline.Proofs.PageToken
import MediaTimeline.Proofs.Effects
import MediaTimeline.Proofs.CleanupHandoff
import MediaTimeline.Proofs.Listing
import MediaTimeline.Proofs.FlowCache
import MediaTimeline.Proofs.Submission
import MediaTimeline.Proofs.ReadOnly
import MediaTimeline.Proofs.Delivery
import MediaTimeline.Proofs.SqlQuery
import MediaTimeline.Proofs.TaskRows
import MediaTimeline.Proofs.QueueAgreement
import MediaTimeline.Proofs.Planning
import MediaTimeline.Proofs.Cursor
import MediaTimeline.Proofs.Checkpoint
import MediaTimeline.Proofs.StampWords
import MediaTimeline.Proofs.StampText
import MediaTimeline.Proofs.NextCursor
import MediaTimeline.Proofs.CalmRun
import MediaTimeline.Proofs.RequestRuns
import MediaTimeline.Proofs.ObjectDeletion
import MediaTimeline.Proofs.Resumption
import MediaTimeline.Proofs.StoreWrites
import MediaTimeline.Proofs.RangeMembership
import MediaTimeline.Proofs.RangeLattice
import MediaTimeline.Proofs.RangeText
import MediaTimeline.Proofs.FlowSpan
import MediaTimeline.Proofs.BlobSweep
import MediaTimeline.Proofs.Packing
import MediaTimeline.Proofs.CleanupDispatch
import MediaTimeline.Proofs.Continuation
import MediaTimeline.Proofs.DequeueOrder
import MediaTimeline.Proofs.QueueRuns
import MediaTimeline.Proofs.RetryBackoff
import MediaTimeline.Proofs.CacheLaws
import MediaTimeline.Proofs.JsonRoundTrip
import MediaTimeline.Proofs.SegmentDocument
import MediaTimeline.Proofs.StorageIds
import MediaTimeline.Proofs.CleanupPipeline
import MediaTimeline.Proofs.StatementSplit
import MediaTimeline.Proofs.PlaceholderRewrite
import MediaTimeline.Proofs.StatementText
import MediaTimeline.Proofs.StoreStatements
