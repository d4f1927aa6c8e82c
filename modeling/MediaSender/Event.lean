import MediaSender.StreamDescription
/-!
What an endpoint does, in order: what it hands to the layers and the tracks, what it does on the
streams of its transport, and what it logs.
-/

namespace MediaSender

abbrev StreamId := Nat

abbrev GateId := Nat

abbrev TrackKey := Nat

inductive LayerNote
  | readerBound
  | writerBound (description : StreamDescription)
  | released (id : String) (ssrc : Ssrc)
  | closed
  | read (attributes : Attributes)
  | write (attributes : Attributes)
  deriving DecidableEq, Repr

inductive Report
  | layer (name : String) (note : LayerNote)
  | sinkRead (name : String) (attributes : Attributes)
  | sinkWrite (name : String) (packet : Packet) (attributes : Attributes)
  deriving DecidableEq, Repr

structure ContextView where
  id : String
  ssrc : Ssrc
  codecs : List Codec
  headerExtensions : List HeaderExtension
  hasWriter : Bool
  hasReader : Bool
  deriving DecidableEq, Repr

inductive LogLevel
  | trace
  | debug
  | warn
  deriving DecidableEq, Repr

inductive Event
  | report (r : Report)
  | readerBound (stream : StreamId)
  | writerBound (stream : StreamId) (description : StreamDescription)
  | released (description : StreamDescription)
  | trackBound (track : TrackKey) (context : ContextView) (result : Outcome Codec)
  | trackUnbound (track : TrackKey) (id : String) (ssrc : Ssrc) (result : Outcome Unit)
  | opening (stream : StreamId) (ssrc : Ssrc)
  | opened (stream : StreamId) (ssrc : Ssrc)
  | sent (stream : StreamId) (ssrc : Ssrc) (packet : Packet)
  | received (stream : StreamId) (ssrc : Ssrc) (data : Bytes)
  | closed (stream : StreamId) (ssrc : Ssrc)
  | log (level : LogLevel) (text : String)
  deriving DecidableEq

end MediaSender
