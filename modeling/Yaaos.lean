import Yaaos.Base.Outcome
import Yaaos.Gateway.Tenancy
import Yaaos.Gateway.Lease
import Yaaos.Gateway.Lifecycle
import Yaaos.Gateway.Replay
import Yaaos.Gateway.RoundTrip
import Yaaos.Pipelines.WindDown
import Yaaos.Pipelines.StallSweep
import Yaaos.Pipelines.Slots
import Yaaos.Pipelines.Pauses
import Yaaos.Pipelines.Mirror
import Yaaos.Pipelines.Races
import Yaaos.Agent.Credentials
import Yaaos.Agent.Redelivery
import Yaaos.Pipelines.Decompose
import Yaaos.Pipelines.PipelineStore
import Yaaos.Gateway.Grace
import Yaaos.Gateway.SingleFlight
import Yaaos.Gateway.Heartbeat
import Yaaos.Gateway.Destroy
import Yaaos.Agent.Frames
import Yaaos.Agent.Leaks
import Yaaos.Agent.Branches
import Yaaos.Tasks.Outbox
import Yaaos.CodingAgent.Sink
import Yaaos.Intake.Installations
import Yaaos.Intake.PullFollowing
import Yaaos.Intake.DeliveredOnce
import Yaaos.Intake.ScheduleSlots
import Yaaos.PrReview.Batching
import Yaaos.OAuth.SingleUse
import Yaaos.Pipelines.Verdicts
import Yaaos.Pipelines.Cancelling
import Yaaos.Orgs.Isolation
import Yaaos.Orgs.Owners
import Yaaos.Exchange.Binding
import Yaaos.Exchange.Following
import Yaaos.Reviews.Ranges
import Yaaos.Agent.Files
import Yaaos.Tasks.Backoff
import Yaaos.Intake.CronSchedules
import Yaaos.Agent.Streaming
import Yaaos.Pipelines.Inherited
import Yaaos.Pipelines.FindingLedger
import Yaaos.Gateway.Liveness
import Yaaos.Pipelines.Chains
import Yaaos.Pipelines.Foreign
import Yaaos.Pipelines.ProtectedCode
import Yaaos.Agent.ConnErrors
import Yaaos.Agent.Bearers
import Yaaos.Agent.Activity
import Yaaos.Pipelines.StageActivity
import Yaaos.PrReview.Disputes
import Yaaos.PrReview.Residuals
import Yaaos.Orgs.StepUp
import Yaaos.Mcp.Tokens
import Yaaos.CodingAgent.Boundary
import Yaaos.Sse.AfterCommit
import Yaaos.CodingAgent.AgentToml
import Yaaos.Web.AutoSave
import Yaaos.Orgs.Emails
import Yaaos.Agent.Dedup
import Yaaos.Agent.Schedule
import Yaaos.Redis.SlidingWindow
import Yaaos.AuditLog.Service
