import InduSense.Statement.Program
import InduSense.Statement.Guarantee
import InduSense.Statement.Schedule
import InduSense.Statement.Interleave
import InduSense.Statement.Table
import InduSense.Statement.ClaimFirst
import InduSense.Statement.Consumer
import InduSense.Statement.Duplicates
import InduSense.Statement.Trace
import InduSense.Statement.Raising
import InduSense.Shared.Values
import InduSense.Shared.Events
import InduSense.Shared.Reliability
import InduSense.Shared.BreakerCalls
import InduSense.Shared.BreakerTrials
import InduSense.Shared.Auth
import InduSense.Alerting.AlertTable
import InduSense.Alerting.IncidentTable
import InduSense.Alerting.Statements
import InduSense.Shared.Incidents
import InduSense.Api.Handlers
import InduSense.AlertService.Rules
import InduSense.AlertService.Store
import InduSense.AlertService.Main
import InduSense.Alerting.IncidentRaces
import InduSense.Alerting.AlertRaces
import InduSense.Alerting.EscalationLadder
import InduSense.Alerting.Muting
import InduSense.AlertService.CrashSafety
import InduSense.AlertService.Evaluation
import InduSense.AlertService.Redelivery
import InduSense.StreamProcessor.Series
import InduSense.StreamProcessor.Main
import InduSense.StreamProcessor.SilentLoss
import InduSense.AnomalyDetector.Detectors
import InduSense.AnomalyDetector.Features
import InduSense.AnomalyDetector.Main
import InduSense.AnomalyDetector.LostAnomaly
import InduSense.AnomalyDetector.Duplicates
import InduSense.Consumption.Loops
import InduSense.Shared.TokenRotation
import InduSense.Shared.ActiveUsers
import InduSense.Ingestion.Validate
import InduSense.Ingestion.Sink
import InduSense.Ingestion.Main
import InduSense.Ingestion.Acks
import InduSense.Ingestion.Ordering
import InduSense.Alerting.IncidentRecords
import InduSense.Alerting.IncidentTenancy
import InduSense.Api.Devices
import InduSense.Statement.TwoRuns
import InduSense.Api.Records
import InduSense.Api.Routes
import InduSense.Api.InventoryTenancy
import InduSense.Api.RecordsTenancy
import InduSense.Api.SideBySide
import InduSense.Api.NonInterference
import InduSense.Incidents.Calls
import InduSense.Incidents.Reopening
import InduSense.Incidents.AuditTrail
import InduSense.Incidents.AllOrNothing
import InduSense.Incidents.Timestamps
import InduSense.Api.Assignees
import InduSense.AlertService.Scope
import InduSense.AlertService.Snapshots
import InduSense.AnomalyDetector.FeatureSpace
import InduSense.Pipeline.DeviceIdentity
import InduSense.StreamProcessor.Buffers
import InduSense.StreamProcessor.Poison
import InduSense.Shared.Keys
import InduSense.Numeric.ExponentialAverage
import InduSense.AnomalyDetector.Baseline
import InduSense.Lists.StableSort
import InduSense.StreamProcessor.Arrivals
import InduSense.StreamProcessor.TrailingWindow
import InduSense.StreamProcessor.ArrivalOrder
import InduSense.StreamProcessor.ExactlyOnce
import InduSense.Alerting.Cooldown
import InduSense.Network.IpAddress
import InduSense.Api.ClientIp
import InduSense.Counters.Expiring
import InduSense.Api.RateLimiter
import InduSense.Statement.Sessions
import InduSense.Credentials.Tables
import InduSense.Credentials.Requests
import InduSense.Credentials.OneUsable
import InduSense.Text.Utf8
import InduSense.Pipeline.DeadLetters
import InduSense.Seed.Tables
import InduSense.Statement.Cuts
import InduSense.Seed.Main
import InduSense.Seed.Contents
import InduSense.Seed.Stages
import InduSense.Seed.Steps
import InduSense.Seed.Hierarchy
import InduSense.Seed.HalfDone
import InduSense.Seed.Recovery
import InduSense.Counters.SlidingLog
import InduSense.AlertService.AnomalyCounts
import InduSense.AnomalyDetector.FeatureHistory
import InduSense.Lists.Extremes
import InduSense.AnomalyDetector.Severities
import InduSense.AnomalyDetector.Steadiness
import InduSense.AnomalyDetector.TreeShape
import InduSense.AnomalyDetector.EarlyLeaves
import InduSense.Shared.ProtectedWrites
import InduSense.Ingestion.Flushes
import InduSense.Statement.Faults
import InduSense.Shared.FailedRefresh
import InduSense.Shared.UuidInput
import InduSense.Ingestion.Schema
import InduSense.Text.IsoFormat
import InduSense.Api.Telemetry
import InduSense.Frontend.Tab
import InduSense.Frontend.LogoutFinal
import InduSense.Api.AlertFeed
import InduSense.Statement.Pages
import InduSense.Api.Pagination
import InduSense.AlertService.RuleOrder
import InduSense.Shared.WireFormat
import InduSense.Ingestion.Requests
import InduSense.Ingestion.Session
import InduSense.Ingestion.Delivery
import InduSense.Shared.TelemetryFormat
import InduSense.Simulator.Sensors
import InduSense.Simulator.Main
import InduSense.Simulator.Accounting
import InduSense.Simulator.Protocol
import InduSense.Simulator.Contract
import InduSense.Shared.Provenance
import InduSense.Api.Access
import InduSense.Statement.Ledger
import InduSense.Api.AuthRoutes
import InduSense.Frontend.AlertsFeed
import InduSense.Lists.Growth
import InduSense.Api.DeviceHistory
import InduSense.Api.LiveFeed
import InduSense.Lists.Stutter
import InduSense.Statement.Implement
import InduSense.StreamProcessor.SinkRefinement
import InduSense.StreamProcessor.WrittenOnce
