import Aurora.Lib.Checks
import Aurora.Lib.Pieces
import Aurora.Lib.Latin1
import Aurora.Lib.Urlencoded
import Aurora.Lib.Table
import Aurora.Lib.Transaction
import Aurora.Lib.Sorting
import Aurora.Lib.Paging
import Aurora.Lib.Interaction
import Aurora.Lib.Monitor
import Aurora.Lib.Worlds
import Aurora.Lib.Threads
import Aurora.Lib.Gate
import Aurora.Lib.Sha256
import Aurora.Lib.Json
import Aurora.Lib.Loads
import Aurora.Lib.Binary64
import Aurora.Lib.Streaks
import Aurora.Lib.Dict
import Aurora.HealthHistory.Models
import Aurora.HealthHistory.Errors
import Aurora.HealthHistory.Reasons
import Aurora.HealthHistory.Projection
import Aurora.HealthHistory.Projecting
import Aurora.HealthHistory.Evaluation
import Aurora.HealthHistory.EvaluationTraces
import Aurora.HealthHistory.SamplingGap
import Aurora.HealthHistory.GapTraces
import Aurora.HealthHistory.Lifecycle
import Aurora.HealthHistory.Schema
import Aurora.HealthHistory.Ingestion
import Aurora.HealthHistory.SchemaVerification
import Aurora.HealthHistory.IngestionTransaction
import Aurora.HealthHistory.Runs
import Aurora.HealthHistory.RoundTrips
import Aurora.HealthHistory.Noninterference
import Aurora.HealthHistory.Replaying
import Aurora.HealthHistory.Compacting
import Aurora.HealthHistory.AlertHistory
import Aurora.HealthHistory.Trusting
import Aurora.HealthHistory.Ordering
import Aurora.HealthHistory.Agreeing
import Aurora.HealthHistory.WriteSafety
import Aurora.HealthHistory.Scheduler
import Aurora.HealthHistory.Opportunities
import Aurora.HealthHistory.Cadence
import Aurora.HealthHistory.Phases
import Aurora.HealthHistory.ObservationOutcomes
import Aurora.HealthHistory.Conserving
import Aurora.HealthHistory.Leadership
import Aurora.HealthHistory.Serving
import Aurora.HealthHistory.Converging
import Aurora.HealthHistory.DatabaseClosing
import Aurora.M18Validation.SamplingGap
import Aurora.M18Validation.AlertLifecycle
import Aurora.M18Validation.Reasons
import Aurora.M18Validation.Parity
import Aurora.M18Validation.LifecycleParity
import Aurora.Dashboard.HealthService
import Aurora.Dashboard.SingleFlight
import Aurora.ConfigProfiles.Planner
import Aurora.ConfigProfiles.Differences
import Aurora.ConfigProfiles.Planning
import Aurora.ConfigProfiles.Filesystem
import Aurora.ConfigProfiles.FilesystemRules
import Aurora.ConfigProfiles.SecureFiles
import Aurora.ConfigProfiles.Manifests
import Aurora.ConfigProfiles.ManagedWrites
import Aurora.Hardware.Models
import Aurora.Hardware.WledResponses
import Aurora.Hardware.HyperhdrResponses
import Aurora.ControlPlane.HyperhdrAdapter
import Aurora.Hardware.ComponentEntries
import Aurora.ControlPlane.ComponentVerification
import Aurora.ControlPlane.Forms
import Aurora.ControlPlane.Sessions
import Aurora.ControlPlane.SessionHistory
import Aurora.ControlPlane.Limiter
import Aurora.ControlPlane.Limiting
import Aurora.Hardware.CaptureCalls
import Aurora.Hardware.ReadWriteProbe
import Aurora.Hardware.StreamingProbe
import Aurora.Hardware.CaptureFrame
import Aurora.Hardware.ReadWriteFlags
import Aurora.Hardware.StreamingCleanup
import Aurora.Hardware.CaptureConsistency
import Aurora.Hardware.CaptureModesProbe
import Aurora.Hardware.CaptureModeLoops
import Aurora.Hardware.CaptureModes
import Aurora.Hardware.DdpPackets
import Aurora.Hardware.DdpRoundTrip
import Aurora.Hardware.DdpBlackout
import Aurora.Hardware.DdpOutputProbe
import Aurora.Runtime.StartStop
import Aurora.Lib.Base64
import Aurora.Lib.UnicodeDigits
import Aurora.Security.Passwords
import Aurora.Security.PasswordFormat
import Aurora.ConfigProfiles.ManifestRoundTrip
import Aurora.Config.Merging
import Aurora.Config.MergingObjects
import Aurora.Config.Loader
import Aurora.Config.Precedence
import Aurora.ConfigProfiles.Backups
import Aurora.HealthHistory.GapOpenings
import Aurora.HealthHistory.WalCheckpointing
import Aurora.HealthHistory.CleanupContract
import Aurora.ControlPlane.SharedGate
import Aurora.ControlPlane.Authorization
import Aurora.ConfigProfiles.Queries
import Aurora.Dashboard.SweepReports
import Aurora.HealthHistory.DirectoryTrust
import Aurora.HealthHistory.LeadershipExclusion
import Aurora.ControlPlane.Revocation
import Aurora.ControlPlane.MutationRate
