import LinkSense.Machine
import LinkSense.WaitingLine
import LinkSense.Table
import LinkSense.Windows
import LinkSense.Shared.Time
import LinkSense.Shared.Config
import LinkSense.Shared.Metrics
import LinkSense.Shared.Api
import LinkSense.Shared.Utils
import LinkSense.Server.BandwidthState
import LinkSense.Server.BandwidthOrder
import LinkSense.Server.Database
import LinkSense.Server.Config
import LinkSense.Server.Api
import LinkSense.Server.Access
import LinkSense.Server.BandwidthDownload
import LinkSense.Agent.Tasks
import LinkSense.Agent.Queue
import LinkSense.Agent.Database
import LinkSense.Agent.Scheduler
import LinkSense.Agent.Executions
import LinkSense.Agent.MainLoop
import LinkSense.Agent.Aggregation
import LinkSense.Agent.Delivery
import LinkSense.System.Redelivery
import LinkSense.Agent.Config
import LinkSense.System.ConfigSync
import LinkSense.Agent.Storage
import LinkSense.Agent.Retention
import LinkSense.Agent.Backoff
import LinkSense.Agent.Flush
import LinkSense.Server.Retention
import LinkSense.Server.ConfigCache
import LinkSense.Server.Upload
import LinkSense.Files
import LinkSense.Server.Reconfigure
import LinkSense.Json
import LinkSense.Shared.Wire
import LinkSense.System.Compatibility
import LinkSense.Rows
import LinkSense.Agent.Columns
import LinkSense.Agent.Representation
import LinkSense.Agent.Attempts
import LinkSense.Agent.Batches
import LinkSense.Agent.Atomicity
import LinkSense.Agent.ConfigUpdates
import LinkSense.Server.RateLimit
import LinkSense.Periodic
import LinkSense.System.HealthExpectation
import LinkSense.Server.HealthReport
import LinkSense.Agent.Summaries
import LinkSense.Agent.SummaryFields
import LinkSense.Shared.TasksFile
import LinkSense.Server.ReconfigureFrame
import LinkSense.Agent.SqlJson
import LinkSense.System.AgentIds
import LinkSense.Agent.SqlUrl
import LinkSense.NetAddr
import LinkSense.Agent.Targets
import LinkSense.Agent.HttpSend
import LinkSense.ByteReader
import LinkSense.Agent.HttpReceive
import LinkSense.Agent.HttpLimits
import LinkSense.HttpResponse
import LinkSense.Agent.HttpAccept
import LinkSense.Server.Backups
import LinkSense.Shared.ServerConfig
import LinkSense.Server.BackgroundTasks
import LinkSense.Server.BandwidthDelay
import LinkSense.Agent.BandwidthExecutor
import LinkSense.Persisted
import LinkSense.System.Overrides
import LinkSense.System.StartUp
import LinkSense.Agent.ConfigReload
import LinkSense.System.Accounting
import LinkSense.Agent.StaggeredStart
import LinkSense.System.Delivered
import LinkSense.Agent.InTurn
import LinkSense.System.Convergence
import LinkSense.System.Isolation
import LinkSense.System.ValidEdits
import LinkSense.System.Versions
import LinkSense.System.Counting
import LinkSense.Agent.RegexCache
import LinkSense.Agent.DnsAnswers
import LinkSense.Agent.SnmpValues
