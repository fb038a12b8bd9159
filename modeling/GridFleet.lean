import GridFleet.AppiumReleases
import GridFleet.AppiumTracking
import GridFleet.ArtifactServing
import GridFleet.CapabilityInjection
import GridFleet.CreateSessionCancel
import GridFleet.EventOutboxDedupe
import GridFleet.GridFifo
import GridFleet.HealthFold
import GridFleet.HealthIsolation
import GridFleet.JobProgress
import GridFleet.ObservedMatching
import GridFleet.OrphanSweep
import GridFleet.PackDrainIdle
import GridFleet.PortAllocation
import GridFleet.PortabilityRoundTrip
import GridFleet.ReconcileFixpoint
import GridFleet.RecoveryHold
import GridFleet.RemediationBackoff
import GridFleet.ReservationTwins
import GridFleet.RouterRebuilds
import GridFleet.RouterTargets
import GridFleet.RunEscalation
import GridFleet.RunReaper
import GridFleet.RunSelection
import GridFleet.RunTeardownReport
import GridFleet.SessionCoherence
import GridFleet.StatusPushOrder
import GridFleet.VerificationLease
import GridFleet.ReleaseDeletion
import GridFleet.VerificationEnds
import GridFleet.NodeStateLoop
import GridFleet.RunningNodes
import GridFleet.WorkerGenerations
import GridFleet.Settings
import GridFleet.RestartEvents
import GridFleet.CircuitBreaker
import GridFleet.NodeReachability
import GridFleet.ProbeEscalation
import GridFleet.LiveSessions
import GridFleet.DeviceFilters
import GridFleet.StartFailures
import GridFleet.NodeHealthPacing
import GridFleet.CursorPages
import GridFleet.StatusPushLoop
