import ResearchOs.Data.Json
import ResearchOs.Data.Regex
import ResearchOs.Data.JsonText
import ResearchOs.Data.Strict
import ResearchOs.Data.Fold
import ResearchOs.Events.Model
import ResearchOs.Canonical
import ResearchOs.Core.Runs.Reducer
import ResearchOs.Core.Runs.Invariant
import ResearchOs.Core.Runs.Update
import ResearchOs.Core.Runs.Safety
import ResearchOs.Core.Runs.History
import ResearchOs.Core.Runs.Exit
import ResearchOs.Core.Runs.Document
import ResearchOs.Core.Runs.Cache
import ResearchOs.Data.Transaction
import ResearchOs.Data.CompareAndSwap
import ResearchOs.Core.Storage.Protocol
import ResearchOs.Core.Storage.Trust
import ResearchOs.Core.Storage.Log
import ResearchOs.Data.Clients
import ResearchOs.Core.Workers.Exclusive
import ResearchOs.Core.Workers.Barrier
import ResearchOs.Data.FrozenReplay
import ResearchOs.Budget.Model
import ResearchOs.Budget.Step
import ResearchOs.Budget.Conservation
import ResearchOs.Core.Storage.Control
import ResearchOs.Budget.Control
import ResearchOs.Application.Receipts
import ResearchOs.Application.Effects
import ResearchOs.Core.Runs.Control
import ResearchOs.Core.Workers.Binding
import ResearchOs.Core.Runs.Accept
import ResearchOs.Core.Runs.Start
import ResearchOs.Core.Runs.Draft
import ResearchOs.Core.Recovery.Reconcile
import ResearchOs.Core.Workers.Isolation
import ResearchOs.Core.Recovery.Attribution
import ResearchOs.Data.Retry
import ResearchOs.Core.Runs.Settle
import ResearchOs.Core.Recovery.Standing
import ResearchOs.Core.Recovery.Stages
import ResearchOs.Core.Recovery.Converge
import ResearchOs.Core.Workers.Pollers
import ResearchOs.Core.Workers.Permission
import ResearchOs.Data.JsonEq
import ResearchOs.Data.Resume
import ResearchOs.Core.Native.Outcome
import ResearchOs.Core.Runs.Recorded
import ResearchOs.Core.Workers.Failure
import ResearchOs.Core.Native.Report
import ResearchOs.Core.Native.Writes
import ResearchOs.Core.Native.Stages
import ResearchOs.Core.Native.Turns
import ResearchOs.Core.Native.Converge
import ResearchOs.Core.Runs.Status
import ResearchOs.Backup.Reconcile
import ResearchOs.Research.Model
import ResearchOs.Research.Ledger
import ResearchOs.Research.Step
import ResearchOs.Research.Proposals
import ResearchOs.Research.Integrity
import ResearchOs.Research.Control
import ResearchOs.Data.FirstSeen
import ResearchOs.Core.Runs.Committed
import ResearchOs.Projections.QueryTables
import ResearchOs.Projections.Rebuilt
import ResearchOs.Authorization.Model
import ResearchOs.Authorization.Lineage
import ResearchOs.Report.Fold
import ResearchOs.Report.Isolation
import ResearchOs.Application.SharedLog
import ResearchOs.Backup.Objects
import ResearchOs.Backup.Closure
import ResearchOs.Core.Native.Written
import ResearchOs.Core.Native.Stalls
import ResearchOs.Core.Native.Settling
import ResearchOs.Authorization.Plan
import ResearchOs.Authorization.Record
import ResearchOs.Core.Workers.Authorized
import ResearchOs.Core.Workers.Bindable
import ResearchOs.Core.Workers.Completeness
import ResearchOs.Budget.Closable
import ResearchOs.Data.Ascending
import ResearchOs.Core.Storage.Read
import ResearchOs.Projections.Replay
import ResearchOs.Data.Retention
import ResearchOs.Dashboard.Store
import ResearchOs.Dashboard.Protocol
import ResearchOs.Data.Text
import ResearchOs.Data.Base64
import ResearchOs.Web.Cursor
import ResearchOs.Web.EventPage
import ResearchOs.Data.Decimal
import ResearchOs.Jcs.Number
import ResearchOs.Providers.Discipline
import ResearchOs.Data.Layers
import ResearchOs.Core.Spec.Model
import ResearchOs.Core.Spec.Accept
import ResearchOs.Core.Spec.Bounds
import ResearchOs.Authorization.Verdict
import ResearchOs.Data.SortBy
import ResearchOs.Data.Walk
import ResearchOs.Core.Spec.Dump
import ResearchOs.Jcs.Canonical
import ResearchOs.Blocks.Registry
import ResearchOs.Planning.Model
import ResearchOs.Planning.Planner
import ResearchOs.Planning.Staging
import ResearchOs.Planning.Needs
import ResearchOs.Planning.Requirements
import ResearchOs.Core.Spec.Reordering
import ResearchOs.Planning.Invariance
import ResearchOs.Planning.SamePlan
import ResearchOs.Planning.DryRun
import ResearchOs.Planning.Quiet
import ResearchOs.Planning.Contract
import ResearchOs.Jcs.Ordered
import ResearchOs.Jcs.Reading
import ResearchOs.Authorization.Documents
import ResearchOs.Authorization.Decisive
import ResearchOs.Planning.Authorizable
import ResearchOs.Planning.Recordable
import ResearchOs.Execution.Equivalence
import ResearchOs.Core.Spec.Agreement
import ResearchOs.Secrets.Redaction
import ResearchOs.Transfer.Staging
import ResearchOs.Dashboard.Confinement
import ResearchOs.Extensions.Registry
import ResearchOs.Core.Workers.Expiries
import ResearchOs.Web.RevisionPage
import ResearchOs.Web.RunPage
import ResearchOs.Core.Workers.Tokens
import ResearchOs.Core.Workers.Observed
import ResearchOs.Planning.SourceCounts
import ResearchOs.Internal.Snapshot
import ResearchOs.Transfer.Resumed
import ResearchOs.Web.EventStream
import ResearchOs.Web.Stream
import ResearchOs.Web.Sessions
import ResearchOs.Web.Server
