import ConsoleBus.Bus.Exchange
import ConsoleBus.Command
import ConsoleBus.Disc.Series
import ConsoleBus.Proofs.Flags
import ConsoleBus.Proofs.Trace
import ConsoleBus.RegisterFile
import ConsoleBus.Simulator.Handling
import ConsoleBus.Stub
import ConsoleBus.Proofs.Turns
import ConsoleBus.Proofs.ControlLines
import ConsoleBus.Proofs.Prompt
import ConsoleBus.Proofs.ExchangeContract
import ConsoleBus.Proofs.Duration
import ConsoleBus.Proofs.Simulator.Control
import ConsoleBus.Proofs.Simulator.Steps
import ConsoleBus.Proofs.Program
import ConsoleBus.Proofs.Simulator.Packets
import ConsoleBus.Proofs.Simulator.Session
import ConsoleBus.Proofs.Simulator.Transcript
import ConsoleBus.Proofs.Simulator.Timing
import ConsoleBus.Proofs.Instant
import ConsoleBus.Proofs.Simulator.Answers
import ConsoleBus.Proofs.Simulator.Refinement
import ConsoleBus.Proofs.Simulator.Phantom
import ConsoleBus.Proofs.Disc.Representation
import ConsoleBus.Proofs.Simulator.Lines
import ConsoleBus.Proofs.Simulator.Listening
import ConsoleBus.Proofs.Simulator.Alignment
import ConsoleBus.Proofs.Simulator.Broadcast
import ConsoleBus.Proofs.Simulator.Lockstep
import ConsoleBus.Proofs.Simulator.Recovery
import ConsoleBus.Proofs.Simulator.Isolation
import ConsoleBus.Proofs.Simulator.Reference
import ConsoleBus.Proofs.Disc.Hiding
import ConsoleBus.Proofs.Disc.InPlace
import ConsoleBus.Proofs.Disc.Storing
import ConsoleBus.Proofs.Disc.Canonical
import ConsoleBus.Proofs.BlindPacket
import ConsoleBus.Proofs.Waiting
import ConsoleBus.Proofs.Lookups
import ConsoleBus.Proofs.Simulator.Usage
import ConsoleBus.Proofs.Simulator.Checked
import ConsoleBus.Proofs.Simulator.Watching
import ConsoleBus.Proofs.Disc.Clamping
import ConsoleBus.Proofs.CardPackets
import ConsoleBus.Proofs.Simulator.Raising
import ConsoleBus.Proofs.AnyTransport
