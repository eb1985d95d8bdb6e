import Freshness.Caller
import Freshness.Coordinator.Basic
import Freshness.Coordinator.Cycle
import Freshness.Coordinator.Operations
import Freshness.Coordinator.Plan
import Freshness.Coordinator.Run
import Freshness.Coordinator.Session
import Freshness.Coordinator.Status
import Freshness.Debounce
import Freshness.Debounce.Script
import Freshness.Duration
import Freshness.Fault
import Freshness.Host
import Freshness.Host.Script
import Freshness.Json.Basic
import Freshness.Json.Reader
import Freshness.Json.Writer
import Freshness.Motion
import Freshness.Notice
import Freshness.Payload
import Freshness.Policy
import Freshness.Proofs.Coordinator.Arming
import Freshness.Proofs.Coordinator.Attendance
import Freshness.Proofs.Coordinator.Attribution
import Freshness.Proofs.Coordinator.Clocks
import Freshness.Proofs.Coordinator.Coalescing
import Freshness.Proofs.Coordinator.Course
import Freshness.Proofs.Coordinator.Debounced
import Freshness.Proofs.Coordinator.Effects
import Freshness.Proofs.Coordinator.Firing
import Freshness.Proofs.Coordinator.FirstRefresh
import Freshness.Proofs.Coordinator.Following
import Freshness.Proofs.Coordinator.Headway
import Freshness.Proofs.Coordinator.History
import Freshness.Proofs.Coordinator.Hooks
import Freshness.Proofs.Coordinator.Life
import Freshness.Proofs.Coordinator.Logging
import Freshness.Proofs.Coordinator.Manning
import Freshness.Proofs.Coordinator.News
import Freshness.Proofs.Coordinator.Orderly
import Freshness.Proofs.Coordinator.Pacing
import Freshness.Proofs.Coordinator.Period
import Freshness.Proofs.Coordinator.Polling
import Freshness.Proofs.Coordinator.Progress
import Freshness.Proofs.Coordinator.Quiet
import Freshness.Proofs.Coordinator.Readings
import Freshness.Proofs.Coordinator.Rounds
import Freshness.Proofs.Coordinator.Runs
import Freshness.Proofs.Coordinator.Shutdown
import Freshness.Proofs.Coordinator.SingleFlight
import Freshness.Proofs.Coordinator.Solitude
import Freshness.Proofs.Coordinator.Stopping
import Freshness.Proofs.Coordinator.Surfacing
import Freshness.Proofs.Coordinator.Ticking
import Freshness.Proofs.Coordinator.Waiting
import Freshness.Proofs.Coordinator.Yields
import Freshness.Proofs.Debounce
import Freshness.Proofs.Debounce.Phase
import Freshness.Proofs.Debounce.Scripts
import Freshness.Proofs.Debounce.Spacing
import Freshness.Proofs.Host
import Freshness.Proofs.Host.Removal
import Freshness.Proofs.Json
import Freshness.Proofs.Roster
import Freshness.Proofs.Roster.Scripts
import Freshness.Proofs.Schedule
import Freshness.Proofs.Schedule.Acts
import Freshness.Proofs.Schedule.Honoured
import Freshness.Proofs.Settings
import Freshness.Proofs.Settings.Acceptance
import Freshness.Proofs.Settings.Jitter
import Freshness.Proofs.Settings.Layering
import Freshness.Proofs.Settings.Texts
import Freshness.Proofs.Settings.Zero
import Freshness.Proofs.Snoc
import Freshness.Proofs.Standing
import Freshness.Proofs.Status
import Freshness.Proofs.Timers
import Freshness.Proofs.Timers.Reliable
import Freshness.Proofs.Timestamp
import Freshness.Proofs.Toml.Document
import Freshness.Proofs.Toml.Scalars
import Freshness.Refusal
import Freshness.Report
import Freshness.Roster
import Freshness.Roster.Script
import Freshness.Schedule
import Freshness.Schedule.Script
import Freshness.Settings.Basic
import Freshness.Settings.Document
import Freshness.Settings.Environment
import Freshness.Settings.File
import Freshness.Settings.Plan
import Freshness.Source
import Freshness.Standing
import Freshness.Status
import Freshness.Text.Blank
import Freshness.Text.Digits
import Freshness.Text.Extending
import Freshness.Text.Flips
import Freshness.Text.Hidden
import Freshness.Text.Quoted
import Freshness.Text.Shown
import Freshness.Timers
import Freshness.Timestamp
import Freshness.Toml.Basic
import Freshness.Toml.Blank
import Freshness.Toml.Moment
import Freshness.Toml.Number
import Freshness.Toml.Reader
import Freshness.Toml.Text.Reader
import Freshness.Toml.Text.RoundTrip
import Freshness.Toml.Text.Writer
import Freshness.Toml.Tree
import Freshness.Toml.Writer
import Freshness.Trigger
