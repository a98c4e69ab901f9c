import FleetTrial.Main
import FleetTrial.Rehearsal.Ensembles
import FleetTrial.Rehearsal.WebServer
import FleetTrial.Proofs.Polling.Passage
import FleetTrial.Proofs.Polling.Vigil
import FleetTrial.Proofs.Polling.Progress
import FleetTrial.Proofs.Polling.Muster
import FleetTrial.Proofs.Polling.Bounds
import FleetTrial.Proofs.Polling.Outlasting
import FleetTrial.Proofs.Polling.Latency
import FleetTrial.Proofs.Json.ReadBack
import FleetTrial.Proofs.Resource.RoundTrip
import FleetTrial.Proofs.Allocation.AttemptMoves
import FleetTrial.Proofs.Allocation.Venture
import FleetTrial.Proofs.Measurement.Recording
import FleetTrial.Proofs.CommandLine.Range
import FleetTrial.Proofs.Settings.Acceptance
import FleetTrial.Proofs.Settings.Soundness
import FleetTrial.Proofs.Trial.Ledger
import FleetTrial.Proofs.Trial.Shutdown
import FleetTrial.Proofs.Settings.Sharing
import FleetTrial.Proofs.Trial.Accounts
import FleetTrial.Proofs.Trial.Conservation
import FleetTrial.Proofs.Trial.Robustness
import FleetTrial.Proofs.Trial.Reconciliation
import FleetTrial.Proofs.Measurement.Delivery
import FleetTrial.Proofs.Measurement.Chronicle
import FleetTrial.Proofs.Measurement.Lines
import FleetTrial.Proofs.Trial.Conveyance
import FleetTrial.Proofs.Task.Agreement
import FleetTrial.Proofs.Trial.Setup
import FleetTrial.Proofs.Trial.Phases
import FleetTrial.Proofs.Trial.Deletion
import FleetTrial.Proofs.Trial.Timeline
import FleetTrial.Proofs.Trial.Punctuality
import FleetTrial.Proofs.Measurement.Aggregate
import FleetTrial.Proofs.Measurement.Mean
import FleetTrial.Proofs.Trial.Effort
import FleetTrial.Proofs.Trial.Inertness
import FleetTrial.Proofs.Trial.Completion
import FleetTrial.Proofs.Time.Spelling
import FleetTrial.Proofs.Measurement.Decoding
import FleetTrial.Proofs.Http.Operations
import FleetTrial.Proofs.Http.Truncation
import FleetTrial.Proofs.Polling.Pacing
import FleetTrial.Proofs.Http.SelfLinks
import FleetTrial.Proofs.Http.CustomHeaders
import FleetTrial.Proofs.Settings.Display
import FleetTrial.Proofs.Polling.Expiry
