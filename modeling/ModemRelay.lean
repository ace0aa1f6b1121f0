import ModemRelay.Channel
import ModemRelay.Conformance.Bench
import ModemRelay.Conformance.Operation
import ModemRelay.Conformance.TwoQueues
import ModemRelay.Duration
import ModemRelay.Endpoint
import ModemRelay.Exchange.Basic
import ModemRelay.Exchange.Queue
import ModemRelay.Failure
import ModemRelay.Fifo
import ModemRelay.Files
import ModemRelay.Log.Directive
import ModemRelay.Log.Filter
import ModemRelay.Log.Line
import ModemRelay.Log.Record
import ModemRelay.Main
import ModemRelay.Mode
import ModemRelay.Outcome
import ModemRelay.Pattern.Atom
import ModemRelay.Pattern.Brackets
import ModemRelay.Pattern.Draft
import ModemRelay.Pattern.Modes
import ModemRelay.Proofs.Conformance.Instruments
import ModemRelay.Proofs.Relay.Move
import ModemRelay.Proofs.Relay.Pending
import ModemRelay.Random.ChaCha
import ModemRelay.Random.Stream
import ModemRelay.Relay.Basic
import ModemRelay.Relay.Host
import ModemRelay.Relay.Journal
import ModemRelay.Relay.Notice
import ModemRelay.Relay.Step
import ModemRelay.Replay.Options
import ModemRelay.Replay.Run
import ModemRelay.Scenario.Basic
import ModemRelay.Scenario.Decode
import ModemRelay.Scenario.Report
import ModemRelay.Simulation.Agenda
import ModemRelay.Simulation.Environment
import ModemRelay.Simulation.Peers
import ModemRelay.Simulation.Responder
import ModemRelay.Simulation.Session
import ModemRelay.Text.Bytes
import ModemRelay.Text.Decimal
import ModemRelay.Text.Hidden
import ModemRelay.Text.Letter
import ModemRelay.Text.Quoted
import ModemRelay.Text.Ranges
import ModemRelay.Text.Reader
import ModemRelay.Text.White
import ModemRelay.Toml.Document
import ModemRelay.Toml.Fields
import ModemRelay.Toml.Number
import ModemRelay.Toml.Text
import ModemRelay.Toml.Time
import ModemRelay.Toml.Value
import ModemRelay.Proofs.Conformance.Agreement
import ModemRelay.Proofs.Simulation.Lanes
import ModemRelay.Proofs.Simulation.Scene
import ModemRelay.Proofs.Relay.Timers
import ModemRelay.Proofs.Simulation.Views
import ModemRelay.Proofs.Simulation.Turn
import ModemRelay.Proofs.Simulation.World
import ModemRelay.Proofs.Simulation.Streams
import ModemRelay.Proofs.Scenario.Timeline
import ModemRelay.Proofs.Scenario.Transparency
import ModemRelay.Proofs.Scenario.Evaluation
import ModemRelay.Proofs.Scenario.Ledger
import ModemRelay.Proofs.Scenario.Entries
import ModemRelay.Proofs.Scenario.Verification
import ModemRelay.Proofs.Scenario.Mismatches
import ModemRelay.Proofs.Relay.Calls
import ModemRelay.Proofs.Relay.Handover
import ModemRelay.Proofs.Scenario.Handover
import ModemRelay.Proofs.Simulation.Handover
import ModemRelay.Proofs.Relay.Watching
import ModemRelay.Proofs.Relay.Interleaving
import ModemRelay.Proofs.Relay.Fates
import ModemRelay.Proofs.Simulation.Weight
import ModemRelay.Proofs.Simulation.Operations
import ModemRelay.Proofs.Simulation.Sightings
import ModemRelay.Proofs.Simulation.Clockwork
import ModemRelay.Proofs.Simulation.Punctuality
import ModemRelay.Proofs.Scenario.Promptness
import ModemRelay.Proofs.Relay.Answering
import ModemRelay.Proofs.Relay.Counters
import ModemRelay.Proofs.Relay.Refusals
import ModemRelay.Proofs.Relay.Staleness
import ModemRelay.Proofs.Relay.Discretion
import ModemRelay.Proofs.Relay.Balance
import ModemRelay.Proofs.Simulation.Chronicle
import ModemRelay.Proofs.Simulation.Loops
import ModemRelay.Proofs.Simulation.Uses
import ModemRelay.Proofs.Scenario.Workload
import ModemRelay.Proofs.Simulation.Slicing
import ModemRelay.Proofs.Scenario.Horizon
import ModemRelay.Proofs.Relay.Debts
import ModemRelay.Proofs.Relay.Conclusions
import ModemRelay.Proofs.Scenario.Loading
import ModemRelay.Proofs.Replay.Endings
import ModemRelay.Proofs.Simulation.Renumbering
import ModemRelay.Proofs.Scenario.Reordering
import ModemRelay.Proofs.Relay.Alarms
import ModemRelay.Proofs.Simulation.Turnaround
import ModemRelay.Proofs.Simulation.Bookkeeping
import ModemRelay.Proofs.Simulation.Stoppage
import ModemRelay.Proofs.Exchange.Histories
import ModemRelay.Proofs.Simulation.Truncation
