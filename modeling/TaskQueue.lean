import TaskQueue.Encoding.Sha256
import TaskQueue.Encoding.Base32
import TaskQueue.Encoding.Base64
import TaskQueue.Text.Blank
import TaskQueue.Text.Escaped
import TaskQueue.Text.Quote
import TaskQueue.Text.Table
import TaskQueue.Text.CombiningClass
import TaskQueue.Text.Decomposition
import TaskQueue.Text.Normalization
import TaskQueue.Text.BidiClass
import TaskQueue.Text.JoiningType
import TaskQueue.Text.Mark
import TaskQueue.Time.Civil
import TaskQueue.Time.Instant
import TaskQueue.Time.Rfc3339
import TaskQueue.Halt
import TaskQueue.Fault
import TaskQueue.Error
import TaskQueue.Ulid
import TaskQueue.Domain.Identifier
import TaskQueue.Domain.Priority
import TaskQueue.Domain.Message
import TaskQueue.Json.Value
import TaskQueue.Json.Parse
import TaskQueue.Json.Read
import TaskQueue.Queue.Naming
import TaskQueue.Queue.Codec
import TaskQueue.Queue.Metadata
import TaskQueue.Settings
import TaskQueue.Url.Percent
import TaskQueue.Url.Error
import TaskQueue.Url.Punycode
import TaskQueue.Url.IdnaMapping
import TaskQueue.Url.Idna
import TaskQueue.Url.Host
import TaskQueue.Url.Basic
import TaskQueue.Gateway
import TaskQueue.Log
import TaskQueue.Log.Filter
import TaskQueue.Store.Basic
import TaskQueue.Store.Calls
import TaskQueue.Service.World
import TaskQueue.Service.Lease
import TaskQueue.Service.Pending
import TaskQueue.Service.Expiration
import TaskQueue.Service.Sweep
import TaskQueue.Service.Background
import TaskQueue.Session.Step
import TaskQueue.Session.Basic
import TaskQueue.Session.Perform
import TaskQueue.Cli.Args
import TaskQueue.Cli.Flow
import TaskQueue.Main
import TaskQueue.Proofs.Instant
import TaskQueue.Proofs.Store.Basic
import TaskQueue.Proofs.Store.Messages
import TaskQueue.Proofs.Store.Calls
import TaskQueue.Proofs.Store.Run
import TaskQueue.Proofs.Store.Receipts
import TaskQueue.Proofs.World
import TaskQueue.Proofs.Sweep
import TaskQueue.Proofs.Codec
import TaskQueue.Proofs.Pending.Service
import TaskQueue.Proofs.Service.Kept
import TaskQueue.Proofs.Delays
import TaskQueue.Proofs.Service.Isolation
import TaskQueue.Proofs.Session.Steps
import TaskQueue.Proofs.Session.Caches
import TaskQueue.Proofs.Service.Healing
import TaskQueue.Proofs.Time.Civil
import TaskQueue.Proofs.Time.Text
import TaskQueue.Proofs.Records
import TaskQueue.Proofs.Time.Plain
import TaskQueue.Proofs.Service.Stamps
import TaskQueue.Proofs.Service.Sparing
import TaskQueue.Proofs.Session.Survival
import TaskQueue.Proofs.Base32
import TaskQueue.Proofs.Names
import TaskQueue.Proofs.Shards
import TaskQueue.Proofs.Pending.Ensure
import TaskQueue.Proofs.Service.Shutdown
import TaskQueue.Proofs.Pending.Count
import TaskQueue.Proofs.Service.Limits
import TaskQueue.Proofs.Store.Failures
import TaskQueue.Proofs.Store.Halting
import TaskQueue.Proofs.Gateway.Targets
import TaskQueue.Proofs.Gateway.Replies
import TaskQueue.Proofs.Service.Reporting
import TaskQueue.Proofs.ErrorContext
import TaskQueue.Proofs.Traffic.Notices
import TaskQueue.Proofs.Traffic.Timers
import TaskQueue.Proofs.Session.Isolation
