import Metering.Alert
import Metering.Cold.Request
import Metering.Cold.Store
import Metering.Compaction.Cycle
import Metering.Compaction.Flusher
import Metering.Compaction.Report
import Metering.Compaction.Streaks
import Metering.Config.Basic
import Metering.Config.Reader
import Metering.Count
import Metering.Decimal.Integer
import Metering.Decimal.Shortest
import Metering.Domain.Basic
import Metering.Domain.Label
import Metering.Domain.Mapping
import Metering.Domain.Mapping.Barred
import Metering.Domain.Mapping.Runs
import Metering.Domain.Mapping.Several
import Metering.Domain.Mapping.Singles
import Metering.Domain.Punycode
import Metering.Error
import Metering.Group
import Metering.Group.Reader
import Metering.Hot.Record
import Metering.Hot.Request
import Metering.Hot.Store
import Metering.Interruption
import Metering.Json.Number
import Metering.Json.Printer
import Metering.Json.Reader
import Metering.Key
import Metering.Ledger
import Metering.Ledger.Reader
import Metering.Metrics
import Metering.Page
import Metering.Program
import Metering.Query
import Metering.Quota
import Metering.Readout
import Metering.Redis.Address
import Metering.Redis.Attempt
import Metering.Redis.Call
import Metering.Redis.Connection
import Metering.Redis.Failure
import Metering.Redis.Hot
import Metering.Redis.Reply
import Metering.Redis.Retry
import Metering.Redis.Script
import Metering.Redis.Settings
import Metering.Redis.Side
import Metering.Redis.Stores
import Metering.Request
import Metering.Resource
import Metering.Service.Status
import Metering.Service.Supervisor
import Metering.Side.Request
import Metering.Side.Store
import Metering.Text.Blank
import Metering.Text.Composition
import Metering.Text.Composition.Tables
import Metering.Text.Digest
import Metering.Text.Direction
import Metering.Text.Graphic
import Metering.Text.Joining
import Metering.Text.Mark
import Metering.Text.Parts
import Metering.Text.Quoted
import Metering.Text.Scan
import Metering.Text.Table
import Metering.Time.Bucket
import Metering.Time.Calendar
import Metering.Time.Instant
import Metering.Time.Range
import Metering.Time.Zone
import Metering.Toml.Lexical
import Metering.Toml.Printer
import Metering.Toml.Reader
import Metering.Toml.Table
import Metering.Traffic
import Metering.Url.Authority
import Metering.Url.Basic
import Metering.Url.File
import Metering.Url.Host
import Metering.Url.Path
import Metering.Url.Percent
import Metering.Url.Reader
import Metering.Value
import Metering.Proofs.Compaction.Aftermath
import Metering.Proofs.Compaction.Arrivals
import Metering.Proofs.Compaction.Balance
import Metering.Proofs.Compaction.Claims
import Metering.Proofs.Compaction.Conservation
import Metering.Proofs.Compaction.Effect
import Metering.Proofs.Compaction.Phase
import Metering.Proofs.Compaction.Protocol
import Metering.Proofs.Compaction.Recovery
import Metering.Proofs.Compaction.Site
import Metering.Proofs.Compaction.Stage
import Metering.Proofs.Compaction.Survival
import Metering.Proofs.Way
import Metering.Proofs.Hot.ActiveIndex
import Metering.Proofs.Hot.Acts
import Metering.Proofs.Hot.Enlistment
import Metering.Proofs.Hot.Expiry
import Metering.Proofs.Hot.Records
import Metering.Proofs.Program.Completion
import Metering.Proofs.Program.Monitor
import Metering.Proofs.Program.Moves
import Metering.Proofs.Hot.Buckets
import Metering.Proofs.Hot.Eager
import Metering.Proofs.Ledger.Writing
import Metering.Proofs.Ledger.Station
import Metering.Proofs.Ledger.Rounds
import Metering.Proofs.Ledger.Ceiling
import Metering.Proofs.Ledger.Window
import Metering.Proofs.Ledger.Spans
import Metering.Proofs.Ledger.Coverage
import Metering.Proofs.Cold.Sums
import Metering.Proofs.Program.Sequence
import Metering.Proofs.Query.Parts
import Metering.Proofs.Query.Reading
import Metering.Proofs.Ledger.Calm
import Metering.Proofs.Ledger.Retained
import Metering.Proofs.Ledger.Exactness
import Metering.Proofs.Program.Always
import Metering.Proofs.Program.Steady
import Metering.Proofs.Program.Cells
import Metering.Proofs.Decimal.Digits
import Metering.Proofs.Side.Texts
import Metering.Proofs.Side.Record
import Metering.Proofs.Quota.Writings
import Metering.Proofs.Quota.Usage
import Metering.Proofs.Quota.Law
import Metering.Proofs.Alert.Race
import Metering.Proofs.Alert.Chain
import Metering.Proofs.Outage
import Metering.Proofs.Query.Merging
import Metering.Proofs.Compaction.Sight
import Metering.Proofs.Compaction.Starvation
import Metering.Proofs.Cold.RollUp
import Metering.Proofs.Time.Days
import Metering.Proofs.Query.Answers
import Metering.Proofs.Query.Trends
import Metering.Proofs.Query.Ranking
import Metering.Proofs.Program.Inversion
import Metering.Proofs.Compaction.Course
import Metering.Proofs.Compaction.Statistics
import Metering.Proofs.Compaction.Draining
import Metering.Proofs.Compaction.Trimming
import Metering.Proofs.Ledger.Interludes
import Metering.Proofs.Ledger.Silence
import Metering.Proofs.Hot.Commuting
import Metering.Proofs.Ledger.Batches
import Metering.Proofs.Compaction.Verdicts
import Metering.Proofs.Compaction.Notes
import Metering.Proofs.Compaction.Spared
import Metering.Proofs.Compaction.Reports
import Metering.Proofs.Compaction.Streaks
import Metering.Proofs.Hot.Removal
import Metering.Proofs.Hot.Seeding
import Metering.Proofs.Hot.Passes
import Metering.Proofs.Ledger.Absence
import Metering.Proofs.Ledger.Cleanup
import Metering.Proofs.Program.Delivery
import Metering.Proofs.Compaction.Resets
import Metering.Proofs.Ledger.Markers
import Metering.Proofs.Side.Deletion
import Metering.Proofs.Alert.Check
import Metering.Proofs.Time.Calendar
import Metering.Proofs.Time.Labels
import Metering.Proofs.Time.Tiling
import Metering.Proofs.Key.Codec
import Metering.Proofs.Time.Ranges
import Metering.Proofs.Time.Windows
import Metering.Proofs.Service.Entries
import Metering.Proofs.Service.Restarts
import Metering.Proofs.Service.Budget
import Metering.Proofs.Url.Credentials
import Metering.Proofs.Redis.Redaction
