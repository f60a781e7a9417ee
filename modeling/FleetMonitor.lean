import FleetMonitor.Bus
import FleetMonitor.CommandProbe
import FleetMonitor.Crew
import FleetMonitor.Cycle
import FleetMonitor.CycleRecord
import FleetMonitor.Daemon
import FleetMonitor.Dealing
import FleetMonitor.Delivery
import FleetMonitor.DomainName
import FleetMonitor.Escalation
import FleetMonitor.Evaluation
import FleetMonitor.Fleet
import FleetMonitor.Host
import FleetMonitor.Http.Exchange
import FleetMonitor.IncidentKeys
import FleetMonitor.Instant
import FleetMonitor.LogSearch
import FleetMonitor.MailAddress
import FleetMonitor.Main
import FleetMonitor.Notice
import FleetMonitor.Peers
import FleetMonitor.Proofs.Aftermath
import FleetMonitor.Proofs.Alone
import FleetMonitor.Proofs.AtWork
import FleetMonitor.Proofs.Attendance
import FleetMonitor.Proofs.Breaking
import FleetMonitor.Proofs.Catalogue
import FleetMonitor.Proofs.Clocked
import FleetMonitor.Proofs.Conjunction
import FleetMonitor.Proofs.Counting
import FleetMonitor.Proofs.Course
import FleetMonitor.Proofs.Dealing
import FleetMonitor.Proofs.Decision
import FleetMonitor.Proofs.Degradation
import FleetMonitor.Proofs.Diary
import FleetMonitor.Proofs.Doubles
import FleetMonitor.Proofs.Entries
import FleetMonitor.Proofs.Escalation
import FleetMonitor.Proofs.Expiry
import FleetMonitor.Proofs.Fields
import FleetMonitor.Proofs.Filing
import FleetMonitor.Proofs.Frames
import FleetMonitor.Proofs.Gateways
import FleetMonitor.Proofs.HeaderText
import FleetMonitor.Proofs.Heeding
import FleetMonitor.Proofs.Holding
import FleetMonitor.Proofs.Hysteresis
import FleetMonitor.Proofs.InLine
import FleetMonitor.Proofs.Incidents
import FleetMonitor.Proofs.Independence
import FleetMonitor.Proofs.Keys
import FleetMonitor.Proofs.Leaves
import FleetMonitor.Proofs.Legible
import FleetMonitor.Proofs.Likeness
import FleetMonitor.Proofs.Lowering
import FleetMonitor.Proofs.Membership
import FleetMonitor.Proofs.Muster
import FleetMonitor.Proofs.Nearest
import FleetMonitor.Proofs.Numerals
import FleetMonitor.Proofs.Observation
import FleetMonitor.Proofs.Ordered
import FleetMonitor.Proofs.Overrun
import FleetMonitor.Proofs.Overtaking
import FleetMonitor.Proofs.Places
import FleetMonitor.Proofs.Presence
import FleetMonitor.Proofs.Promise
import FleetMonitor.Proofs.Quotation
import FleetMonitor.Proofs.Reaction
import FleetMonitor.Proofs.Readings
import FleetMonitor.Proofs.Recall
import FleetMonitor.Proofs.Reconciliation
import FleetMonitor.Proofs.Records
import FleetMonitor.Proofs.Recovery
import FleetMonitor.Proofs.Recurrence
import FleetMonitor.Proofs.Replacement
import FleetMonitor.Proofs.RetentionCalls
import FleetMonitor.Proofs.Rounds
import FleetMonitor.Proofs.Rows
import FleetMonitor.Proofs.Searching
import FleetMonitor.Proofs.Series
import FleetMonitor.Proofs.Stages
import FleetMonitor.Proofs.StoredHosts
import FleetMonitor.Proofs.Turn
import FleetMonitor.Proofs.Watch
import FleetMonitor.Proofs.Words
import FleetMonitor.Query
import FleetMonitor.Routine
import FleetMonitor.Schedule
import FleetMonitor.Settings
import FleetMonitor.Span
import FleetMonitor.Store
import FleetMonitor.Surroundings
import FleetMonitor.Ticker
import FleetMonitor.Timeline
import FleetMonitor.Verdict
import FleetMonitor.Worker
