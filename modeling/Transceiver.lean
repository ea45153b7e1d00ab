import Transceiver.Main
import Transceiver.EventLog
import Transceiver.Fifo.Exchange
import Transceiver.Lifecycle.Switchboard
import Transceiver.Pipeline.Bench
import Transceiver.Proofs.Bootstrap.Exits
import Transceiver.Proofs.Bootstrap.Channelizer
import Transceiver.Proofs.Fifo.Order
import Transceiver.Proofs.Lifecycle.Course
import Transceiver.Proofs.Config.Rules
import Transceiver.Proofs.Fifo.Lock
import Transceiver.Proofs.Lifecycle.Latch
import Transceiver.Proofs.Fifo.Turns
import Transceiver.Proofs.Fifo.Precedence
import Transceiver.Proofs.Pipeline.Brackets
import Transceiver.Proofs.Pipeline.Nesting
import Transceiver.Proofs.Pipeline.Assembly
import Transceiver.Proofs.Pipeline.Wiring
import Transceiver.Proofs.Bootstrap.Paths
import Transceiver.Proofs.CommandLine.Spelling
import Transceiver.Proofs.Bootstrap.Tables
import Transceiver.Proofs.Bootstrap.Timing
import Transceiver.Proofs.Fault
import Transceiver.Proofs.Bootstrap.Verdicts
import Transceiver.Proofs.Program.Layers
import Transceiver.Proofs.Program.Reports
import Transceiver.Proofs.Bootstrap.Teardown
import Transceiver.Proofs.Script.Overlay
import Transceiver.Proofs.Script.Grammar
import Transceiver.Proofs.Fifo.Effects
import Transceiver.Proofs.Fifo.Projection
import Transceiver.Proofs.Fifo.Isolation
import Transceiver.Proofs.Lifecycle.Chronicle
import Transceiver.Proofs.Config.LastCalls
import Transceiver.Proofs.Config.Replay
import Transceiver.Proofs.LogLevel
import Transceiver.Proofs.Pipeline.Slots
import Transceiver.Proofs.Config.Summary
import Transceiver.Proofs.Bootstrap.Settings
import Transceiver.Proofs.Program.Verbosity
import Transceiver.Proofs.Message
import Transceiver.Proofs.EventLog.History
