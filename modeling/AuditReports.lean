import AuditReports.Api.Server
import AuditReports.Controller.LoopHandle
import AuditReports.Main
import AuditReports.Proofs.Controller.Event
import AuditReports.Proofs.Controller.Effects
import AuditReports.Proofs.Controller.Ownership
import AuditReports.Proofs.Controller.Settling
import AuditReports.Proofs.Controller.Cancellation
import AuditReports.Proofs.Controller.Timeline
import AuditReports.Proofs.Controller.Phases
import AuditReports.Proofs.Controller.Rejections
import AuditReports.Proofs.Controller.Downloads
import AuditReports.Proofs.Controller.Stability
import AuditReports.Proofs.Controller.Reasons
import AuditReports.Proofs.Controller.Moments
import AuditReports.Proofs.Controller.Diary
import AuditReports.Proofs.Controller.Results
import AuditReports.Proofs.Controller.Renewal
import AuditReports.Proofs.Controller.LoopHandles
import AuditReports.Proofs.Api.Endpoints
import AuditReports.Proofs.Api.Calls
import AuditReports.Proofs.Api.Segments
import AuditReports.Proofs.Api.Queries
import AuditReports.Proofs.Api.SlashRuns
import AuditReports.Proofs.Api.PlainNames
import AuditReports.Proofs.Files.Saving
import AuditReports.Proofs.Report.Contacts
import AuditReports.Proofs.Report.Jobs
import AuditReports.Proofs.Api.Answers
import AuditReports.Proofs.Settings
import AuditReports.Proofs.Controller.FirstCalls
import AuditReports.Proofs.Controller.Pacing
import AuditReports.Proofs.Controller.Deadlines
import AuditReports.Proofs.Controller.Supply
import AuditReports.Proofs.Controller.Watchers
import AuditReports.Proofs.FileSizes
import AuditReports.Proofs.Timestamps
import AuditReports.Proofs.Files.Unnamed
import AuditReports.Proofs.Controller.Tracking
import AuditReports.Proofs.CommandLine.Watching
import AuditReports.Proofs.Api.Redirects
import AuditReports.Proofs.CommandLine.Sending
import AuditReports.Proofs.CommandLine.Submitting
import AuditReports.Proofs.CommandLine.Scopes
import AuditReports.Proofs.CommandLine.Progress
import AuditReports.Proofs.CommandLine.Hushing
import AuditReports.Proofs.CommandLine.Quietness
