import MapFilter.App.Basic
import MapFilter.App.Reply
import MapFilter.Capability
import MapFilter.Compilation
import MapFilter.Date.Basic
import MapFilter.Date.Range
import MapFilter.Export
import MapFilter.Expression
import MapFilter.Files
import MapFilter.Main
import MapFilter.Metric
import MapFilter.Number.Basic
import MapFilter.Number.Reading
import MapFilter.Number.Written
import MapFilter.Predicate
import MapFilter.Proofs.App.Bodies
import MapFilter.Proofs.App.Cycle
import MapFilter.Proofs.App.Freshness
import MapFilter.Proofs.App.Ledger
import MapFilter.Proofs.App.Preview
import MapFilter.Proofs.App.Published
import MapFilter.Proofs.App.Sampling
import MapFilter.Proofs.App.Wiring
import MapFilter.Proofs.Capability.Finding
import MapFilter.Proofs.Capability.Memory
import MapFilter.Proofs.Compilation.Dates
import MapFilter.Proofs.Compilation.Diagnostics
import MapFilter.Proofs.Compilation.Widening
import MapFilter.Proofs.Date.Calendar
import MapFilter.Proofs.Date.Grammar
import MapFilter.Proofs.Date.Keys
import MapFilter.Proofs.Date.Listing
import MapFilter.Proofs.Date.Range
import MapFilter.Proofs.Date.RoundTrip
import MapFilter.Proofs.Export.DateKeys
import MapFilter.Proofs.Export.Headers
import MapFilter.Proofs.Expression.Document
import MapFilter.Proofs.Expression.Filter
import MapFilter.Proofs.Metric.Weights
import MapFilter.Proofs.Number.Digits
import MapFilter.Proofs.Number.Grid
import MapFilter.Proofs.Number.Largest
import MapFilter.Proofs.Number.Nearest
import MapFilter.Proofs.Number.RoundTrip
import MapFilter.Proofs.Number.Whole
import MapFilter.Proofs.Predicate.Chain
import MapFilter.Proofs.Predicate.Holding
import MapFilter.Proofs.Predicate.Reading
import MapFilter.Proofs.Predicate.Tree
import MapFilter.Proofs.Scheduler.Faults
import MapFilter.Proofs.Scheduler.History
import MapFilter.Proofs.Scheduler.Run
import MapFilter.Proofs.Scheduler.Timers
import MapFilter.Proofs.Sql.Answers
import MapFilter.Proofs.Sql.Cells
import MapFilter.Proofs.Sql.Filter
import MapFilter.Proofs.Sql.Marks
import MapFilter.Proofs.Sql.Meaning
import MapFilter.Proofs.Sql.Reading
import MapFilter.Proofs.Sql.Rendering
import MapFilter.Proofs.Sql.Rows
import MapFilter.Proofs.Sql.Terms
import MapFilter.Proofs.Sql.Tokens
import MapFilter.Proofs.Store.Again
import MapFilter.Proofs.Store.Counting
import MapFilter.Proofs.Store.Exports
import MapFilter.Proofs.Store.Loading
import MapFilter.Proofs.Store.MetricFields
import MapFilter.Proofs.Store.Queries
import MapFilter.Proofs.Store.Refusal
import MapFilter.Proofs.Store.Reloading
import MapFilter.Proofs.Store.Repeats
import MapFilter.Proofs.Store.Upkeep
import MapFilter.Proofs.Style.Drawing
import MapFilter.Proofs.Style.Latest
import MapFilter.Proofs.Style.Layers
import MapFilter.Proofs.Style.Places
import MapFilter.Proofs.Style.Visits
import MapFilter.Proofs.Table.Columnwise
import MapFilter.Proofs.Table.Csv
import MapFilter.Proofs.Table.Numeric
import MapFilter.Proofs.Table.Prepared
import MapFilter.Proofs.Table.Reading
import MapFilter.Proofs.Table.Repeats
import MapFilter.Proofs.Table.Rewritten
import MapFilter.Proofs.Table.Stored
import MapFilter.Proofs.Text.Blank
import MapFilter.Proofs.Value.Entries
import MapFilter.Scheduler
import MapFilter.Selection
import MapFilter.Service
import MapFilter.Settings.Basic
import MapFilter.Settings.EnvFile
import MapFilter.Sql.Basic
import MapFilter.Sql.Evaluation
import MapFilter.Sql.Stored
import MapFilter.Store.Basic
import MapFilter.Store.Query
import MapFilter.Style.Basic
import MapFilter.Style.Sync
import MapFilter.Table.Basic
import MapFilter.Table.Csv
import MapFilter.Table.Kind
import MapFilter.Table.Numeric
import MapFilter.Table.Parquet
import MapFilter.Table.Preparation
import MapFilter.Text.Basic
import MapFilter.Text.Encoding
import MapFilter.Text.Message
import MapFilter.Value.Basic
import MapFilter.Value.Json
import MapFilter.Value.Keyed
import MapFilter.Value.Reading
import MapFilter.Web.Request
