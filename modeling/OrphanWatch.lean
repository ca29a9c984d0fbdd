import OrphanWatch.Api
import OrphanWatch.Backend.Client
import OrphanWatch.Cluster.Client
import OrphanWatch.Inventory.Convention
import OrphanWatch.Journal
import OrphanWatch.Main
import OrphanWatch.Metrics.Series
import OrphanWatch.View.Reader
import OrphanWatch.Proofs.Correlation
import OrphanWatch.Proofs.Classification
import OrphanWatch.Proofs.Scan
import OrphanWatch.Proofs.IncompleteScans
import OrphanWatch.Proofs.History
import OrphanWatch.Proofs.Soundness
import OrphanWatch.Proofs.Hysteresis
import OrphanWatch.Proofs.Flight
import OrphanWatch.Proofs.DirectScans
import OrphanWatch.Engine.Fleet
import OrphanWatch.Proofs.Accounting
import OrphanWatch.Proofs.Fleet
import OrphanWatch.Proofs.ReportedFindings
import OrphanWatch.Proofs.Ledger
import OrphanWatch.Proofs.Difference
import OrphanWatch.Proofs.SkippedScopes
import OrphanWatch.Proofs.Rearranged
import OrphanWatch.Monitor.Schedule
import OrphanWatch.Proofs.Polling
import OrphanWatch.Proofs.Schedule
import OrphanWatch.Proofs.ScheduledTimeline
import OrphanWatch.Proofs.Cancellation
import OrphanWatch.Proofs.Drift
import OrphanWatch.Proofs.Collisions
import OrphanWatch.Proofs.Retention
import OrphanWatch.Monitor.Shutdown
import OrphanWatch.Proofs.Shutdown
import OrphanWatch.Proofs.OrphanedBytes
import OrphanWatch.Proofs.UsageAnswer
import OrphanWatch.Proofs.MetricsHistory
import OrphanWatch.Proofs.SharedNames
import OrphanWatch.Proofs.SelectedEntries
import OrphanWatch.Proofs.KeyText
import OrphanWatch.Proofs.ValidConfig
import OrphanWatch.Proofs.Overruns
import OrphanWatch.Proofs.Rounding
import OrphanWatch.Proofs.QuantityText
import OrphanWatch.Proofs.QuantityBytes
import OrphanWatch.Proofs.Expansion
