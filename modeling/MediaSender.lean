import MediaSender.Call
import MediaSender.Capabilities
import MediaSender.CodecMatch
import MediaSender.ControlPacket
import MediaSender.Endpoint
import MediaSender.FormatParameters
import MediaSender.Sender.Encodings
import MediaSender.Sender.Start
import MediaSender.Sender.Stop
import MediaSender.Sender.Swap
import MediaSender.Session.Run
import MediaSender.Task
import MediaSender.Proofs.Run.Change
import MediaSender.Proofs.Run.Sound
import MediaSender.Proofs.Run.Reach
import MediaSender.Proofs.Run.Poll
import MediaSender.Proofs.Run.Upkeep
import MediaSender.Proofs.Run.Actions
import MediaSender.Proofs.Run.Effects
import MediaSender.Proofs.Stream.OpenOnce
import MediaSender.Proofs.Sender.Teardown
import MediaSender.Proofs.Sender.Ledger
import MediaSender.Proofs.Sender.OneSender
import MediaSender.Proofs.Sender.Balance
import MediaSender.Proofs.Sender.Silence
import MediaSender.Proofs.Run.Steps
import MediaSender.Proofs.Run.Course
import MediaSender.Proofs.Sender.Outcomes
import MediaSender.Proofs.Sender.Lifespan
import MediaSender.Proofs.Sender.Envelope
import MediaSender.Proofs.Run.Frame
import MediaSender.Proofs.Sender.Pairing
import MediaSender.Proofs.Run.Fair
import MediaSender.Proofs.Stream.Delivery
import MediaSender.Proofs.Sender.Bindings
import MediaSender.Proofs.Sender.Wiring
import MediaSender.Proofs.Sender.Layers
import MediaSender.Proofs.Sender.Holdings
import MediaSender.Proofs.Sender.StopOrder
import MediaSender.Proofs.Stream.Feedback
import MediaSender.Proofs.Sender.Feeds
import MediaSender.Proofs.Sender.Reads
import MediaSender.Proofs.Sender.CompanionReads
import MediaSender.Proofs.Sender.Tuning
import MediaSender.Proofs.Sender.PayloadTypes
import MediaSender.Proofs.Sender.StartOrder
import MediaSender.Proofs.Sender.Negotiation
import MediaSender.Proofs.Stream.ClosedStream
import MediaSender.Proofs.Stream.Datagrams
import MediaSender.Proofs.Sender.Identifiers
import MediaSender.Proofs.Sender.Companions
import MediaSender.Proofs.Sender.Reservation
import MediaSender.Proofs.Sender.Labels
import MediaSender.Proofs.Sender.OwnBindings
import MediaSender.Proofs.Sender.Replacement
import MediaSender.Proofs.Capabilities.Registrations
import MediaSender.Proofs.Stream.Exchanges
import MediaSender.Proofs.Run.Assignments
import MediaSender.Proofs.Track.Gates
import MediaSender.Proofs.Track.Histories
import MediaSender.Proofs.Track.FanOut
import MediaSender.Proofs.Sender.Deadlines
import MediaSender.Proofs.Capabilities.CodecTables
import MediaSender.Proofs.Capabilities.ExtensionIds
import MediaSender.Proofs.Format.Lines
import MediaSender.Proofs.Format.Compatibility
import MediaSender.Proofs.Codec.Matching
import MediaSender.Proofs.Codec.Retransmission
