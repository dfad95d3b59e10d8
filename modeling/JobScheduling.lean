import JobScheduling.Backlog.Basic
import JobScheduling.Backlog.Request
import JobScheduling.Clock
import JobScheduling.Cluster
import JobScheduling.Environment.DotFile
import JobScheduling.Error
import JobScheduling.Job.Basic
import JobScheduling.Job.Codec
import JobScheduling.Job.Identifier
import JobScheduling.Job.Stage
import JobScheduling.Job.Status
import JobScheduling.Json.Binary64
import JobScheduling.Json.Members
import JobScheduling.Json.Number
import JobScheduling.Json.Token
import JobScheduling.Json.Tree
import JobScheduling.Json.Value
import JobScheduling.Node.Act
import JobScheduling.Node.Basic
import JobScheduling.Node.Pass
import JobScheduling.Node.Requests
import JobScheduling.OldFiles
import JobScheduling.Pool.Basic
import JobScheduling.Pool.Script
import JobScheduling.Pool.Settings
import JobScheduling.Pool.Step
import JobScheduling.Pool.Workers
import JobScheduling.Priority
import JobScheduling.Proofs.Backlog.Heap
import JobScheduling.Proofs.Backlog.Listed
import JobScheduling.Proofs.Backlog.Purge
import JobScheduling.Proofs.Backlog.Reference
import JobScheduling.Proofs.Backlog.Refinement
import JobScheduling.Proofs.Cluster.Admission
import JobScheduling.Proofs.Cluster.Advance
import JobScheduling.Proofs.Cluster.Alone
import JobScheduling.Proofs.Cluster.Cancellation
import JobScheduling.Proofs.Cluster.Capacity
import JobScheduling.Proofs.Cluster.Denied
import JobScheduling.Proofs.Cluster.Estimate
import JobScheduling.Proofs.Cluster.Executions
import JobScheduling.Proofs.Cluster.Happenings
import JobScheduling.Proofs.Cluster.HeldJobs
import JobScheduling.Proofs.Cluster.Holders
import JobScheduling.Proofs.Cluster.Joined
import JobScheduling.Proofs.Cluster.Lingering
import JobScheduling.Proofs.Cluster.Matches
import JobScheduling.Proofs.Cluster.Members
import JobScheduling.Proofs.Cluster.Order
import JobScheduling.Proofs.Cluster.Origin
import JobScheduling.Proofs.Cluster.Outcomes
import JobScheduling.Proofs.Cluster.Pass
import JobScheduling.Proofs.Cluster.Reached
import JobScheduling.Proofs.Cluster.Retention
import JobScheduling.Proofs.Cluster.Retired
import JobScheduling.Proofs.Cluster.Steps
import JobScheduling.Proofs.Cluster.Submission
import JobScheduling.Proofs.Cluster.Sweep
import JobScheduling.Proofs.Cluster.Withdrawn
import JobScheduling.Proofs.Documents
import JobScheduling.Proofs.Environment.Loaded
import JobScheduling.Proofs.Job.Documents
import JobScheduling.Proofs.Json.Fields
import JobScheduling.Proofs.Json.Lexeme
import JobScheduling.Proofs.Json.Members
import JobScheduling.Proofs.Json.Numeral
import JobScheduling.Proofs.Json.Plain
import JobScheduling.Proofs.Json.Quoted
import JobScheduling.Proofs.Json.Written
import JobScheduling.Proofs.Node.Calls
import JobScheduling.Proofs.Node.Capacity
import JobScheduling.Proofs.Node.Estimate
import JobScheduling.Proofs.Node.InStep
import JobScheduling.Proofs.Node.Matches
import JobScheduling.Proofs.Node.Order
import JobScheduling.Proofs.Node.Outlay
import JobScheduling.Proofs.Node.Pass
import JobScheduling.Proofs.Node.Reconciled
import JobScheduling.Proofs.Node.Review
import JobScheduling.Proofs.Node.Share
import JobScheduling.Proofs.Node.Tracked
import JobScheduling.Proofs.OldFiles.Sweep
import JobScheduling.Proofs.Pool.Accounts
import JobScheduling.Proofs.Pool.Counted
import JobScheduling.Proofs.Pool.Events
import JobScheduling.Proofs.Pool.Executions
import JobScheduling.Proofs.Pool.Filed
import JobScheduling.Proofs.Pool.Order
import JobScheduling.Proofs.Pool.Placed
import JobScheduling.Proofs.Pool.Rest
import JobScheduling.Proofs.Pool.Sound
import JobScheduling.Proofs.Pool.Tickets
import JobScheduling.Proofs.Pool.Tidied
import JobScheduling.Proofs.Pool.Transparent
import JobScheduling.Proofs.Registry.CalledOff
import JobScheduling.Proofs.Registry.Cancellation
import JobScheduling.Proofs.Registry.Claiming
import JobScheduling.Proofs.Registry.Claims
import JobScheduling.Proofs.Registry.Durations
import JobScheduling.Proofs.Registry.Entries
import JobScheduling.Proofs.Registry.Eviction
import JobScheduling.Proofs.Registry.Ledger
import JobScheduling.Proofs.Registry.Lifecycle
import JobScheduling.Proofs.Registry.Lookup
import JobScheduling.Proofs.Registry.Moves
import JobScheduling.Proofs.Registry.Refusals
import JobScheduling.Proofs.Registry.Retention
import JobScheduling.Proofs.Registry.Stepwise
import JobScheduling.Proofs.Registry.Transcript
import JobScheduling.Proofs.Registry.Visits
import JobScheduling.Proofs.Registry.Waiting
import JobScheduling.Proofs.Settings.Choice
import JobScheduling.Proofs.Settings.Document
import JobScheduling.Proofs.Settings.Environment
import JobScheduling.Proofs.Settings.Loaders
import JobScheduling.Proofs.Settings.Written
import JobScheduling.Proofs.SharedQueue.Disturbed
import JobScheduling.Proofs.SharedQueue.Faults
import JobScheduling.Proofs.Text.Bytes
import JobScheduling.Proofs.Text.Values
import JobScheduling.Proofs.Ticket.Once
import JobScheduling.Registry.Basic
import JobScheduling.Registry.Record
import JobScheduling.Registry.Request
import JobScheduling.Settings.Basic
import JobScheduling.Settings.Codec
import JobScheduling.Settings.Environment
import JobScheduling.SharedQueue.Basic
import JobScheduling.SharedQueue.Disturbed
import JobScheduling.Summary
import JobScheduling.Table
import JobScheduling.Text.Alphanumeric
import JobScheduling.Text.Blank
import JobScheduling.Text.Plain
import JobScheduling.Text.Quoted
import JobScheduling.Text.Runs
import JobScheduling.Text.Unprintable
import JobScheduling.Ticket
