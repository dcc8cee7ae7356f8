import TrivialFtp.Bytes
import TrivialFtp.Text.Letters
import TrivialFtp.Text.Numeral
import TrivialFtp.Text.Utf8
import TrivialFtp.Text.FixedPoint
import TrivialFtp.Packet.Opcode
import TrivialFtp.Packet.ErrorCode
import TrivialFtp.Packet.Mode
import TrivialFtp.Options.BlockSize
import TrivialFtp.Options.Basic
import TrivialFtp.Packet.Wire
import TrivialFtp.Net.Endpoint
import TrivialFtp.Fault
import TrivialFtp.Tally
import TrivialFtp.Options.Terms
import TrivialFtp.Storage.Store
import TrivialFtp.Session.Act
import TrivialFtp.Session.Run
import TrivialFtp.Link
import TrivialFtp.Command.Run
import TrivialFtp.Main
import TrivialFtp.Proofs.RoundTrip
import TrivialFtp.Proofs.Turns
import TrivialFtp.Proofs.Moves
import TrivialFtp.Proofs.Standing
import TrivialFtp.Proofs.Agreement
import TrivialFtp.Proofs.Exchange
import TrivialFtp.Proofs.Conduct
import TrivialFtp.Proofs.Delivery
import TrivialFtp.Proofs.Safety
import TrivialFtp.Proofs.Progress
import TrivialFtp.Proofs.Course
import TrivialFtp.Proofs.Completion
import TrivialFtp.Proofs.Granting
import TrivialFtp.Proofs.Refusals
import TrivialFtp.Proofs.Rollover
import TrivialFtp.Proofs.Responses
import TrivialFtp.Proofs.Pact
import TrivialFtp.Proofs.Order
import TrivialFtp.Proofs.Verdict
import TrivialFtp.Proofs.Grammar
import TrivialFtp.Proofs.Normal
import TrivialFtp.Proofs.Admission
import TrivialFtp.Proofs.Ties
import TrivialFtp.Proofs.Parallel
import TrivialFtp.Proofs.Incidents
import TrivialFtp.Proofs.Mirrors
import TrivialFtp.Proofs.Isolation
import TrivialFtp.Proofs.Silence
import TrivialFtp.Proofs.Letters
import TrivialFtp.Proofs.Destinations
import TrivialFtp.Proofs.Strangers
import TrivialFtp.Proofs.Chores
import TrivialFtp.Proofs.Confinement
import TrivialFtp.Proofs.Stops
import TrivialFtp.Proofs.Chronicle
import TrivialFtp.Proofs.Stalling
import TrivialFtp.Proofs.Farewells
import TrivialFtp.Proofs.Accounts
import TrivialFtp.Proofs.Shutdown
import TrivialFtp.Proofs.Finishes
import TrivialFtp.Proofs.Senders
import TrivialFtp.Proofs.Blocks
import TrivialFtp.Proofs.Receivers
import TrivialFtp.Proofs.Sizes
import TrivialFtp.Proofs.Severance
import TrivialFtp.Proofs.Negotiation
import TrivialFtp.Proofs.Greetings
import TrivialFtp.Proofs.Strays
import TrivialFtp.Proofs.Histories
import TrivialFtp.Proofs.Commands
import TrivialFtp.Proofs.Datagrams
