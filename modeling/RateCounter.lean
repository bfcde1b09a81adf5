import RateCounter.Time.Text
import RateCounter.Text.Quoted
import RateCounter.Text.Blank
import RateCounter.Decimal.Double
import RateCounter.Text.Integer
import RateCounter.Json.Printer
import RateCounter.Json.Reader
import RateCounter.Window
import RateCounter.Store
import RateCounter.Service
import RateCounter.Health.Monitor
import RateCounter.Failover
import RateCounter.Mesh.Node
import RateCounter.Store.Settings
import RateCounter.Mesh.Settings
import RateCounter.Config.Json
import RateCounter.Registry
import RateCounter.Failover.Report
import RateCounter.Simulation.Faulty
import RateCounter.Simulation.Script
import RateCounter.Simulation.Tree
import RateCounter.Simulation.Rig
import RateCounter.Simulation.Watching
import RateCounter.Mesh.Network
import RateCounter.Yaml.Document
import RateCounter.Config.Yaml
import RateCounter.Config.File
import RateCounter.Cli
import RateCounter.Main
import RateCounter.Proofs.Alone
import RateCounter.Proofs.Failover.Checks
import RateCounter.Proofs.Failover.Reach
import RateCounter.Proofs.Failover.Reference
import RateCounter.Proofs.Mesh.Entry
import RateCounter.Proofs.Mesh.Values
import RateCounter.Proofs.Mesh.View
import RateCounter.Proofs.Mesh.Node
import RateCounter.Proofs.Mesh.Run
import RateCounter.Proofs.Mesh.ReadBack
import RateCounter.Proofs.Mesh.Reset
import RateCounter.Proofs.Mesh.Ledger
import RateCounter.Proofs.Mesh.Transparency
import RateCounter.Proofs.Store.History
import RateCounter.Proofs.Interchange
import RateCounter.Proofs.Mesh.Agreed
import RateCounter.Proofs.Mesh.Accounted
import RateCounter.Proofs.Mesh.Unseen
import RateCounter.Proofs.Health.History
import RateCounter.Proofs.Health.CheckTurns
import RateCounter.Proofs.Failover.Turns
import RateCounter.Proofs.Failover.Traffic
import RateCounter.Proofs.Store.Gated
import RateCounter.Proofs.Health.Views
import RateCounter.Proofs.Failover.Landed
import RateCounter.Proofs.Failover.Available
import RateCounter.Proofs.Failover.Primary
import RateCounter.Proofs.Failover.Unfailing
import RateCounter.Proofs.Failover.Served
import RateCounter.Proofs.Failover.Leading
import RateCounter.Proofs.Failover.OneWindow
import RateCounter.Proofs.Failover.Deadlines
import RateCounter.Proofs.Failover.Concurrent
import RateCounter.Proofs.Health.Checkups
import RateCounter.Proofs.Prompt
import RateCounter.Proofs.Delay
import RateCounter.Proofs.Failover.Prompt
import RateCounter.Proofs.Failover.Elapsed
import RateCounter.Proofs.Followed
import RateCounter.Proofs.Health.Underway
import RateCounter.Proofs.Failover.GivenUp
import RateCounter.Proofs.Construction
import RateCounter.Proofs.Rotation.Balance
import RateCounter.Proofs.Failover.Candidates
import RateCounter.Proofs.Mesh.Merge
import RateCounter.Proofs.Store.AllOrNothing
import RateCounter.Proofs.Store.Sweeps
import RateCounter.Proofs.Text.Numeral
import RateCounter.Proofs.Mesh.EntryText
import RateCounter.Proofs.Failover.Report
import RateCounter.Proofs.Failover.Mirrored
import RateCounter.Proofs.Failover.Refused
import RateCounter.Proofs.Failover.Handed
import RateCounter.Proofs.Config.Soundness
import RateCounter.Proofs.Text.Bytes
import RateCounter.Proofs.Json.Fields
import RateCounter.Proofs.Config.RoundTrip
import RateCounter.Proofs.Settings.Values
import RateCounter.Proofs.Mesh.Settings
import RateCounter.Proofs.Failover.MirroredTraffic
import RateCounter.Proofs.Health.Tally
import RateCounter.Proofs.Failover.SingleFlight
