import MediaSender.Endpoint
import MediaSender.Lifecycle
import MediaSender.Text.Quoted
/-!
Senders and their encodings. The first encoding of a sender is its base. An encoding has a primary
stream and may have two companions, for retransmission and for error correction; the SSRC of a
companion is reserved before its stream exists.
-/

namespace MediaSender

structure BoundStream where
  stream : StreamId
  reader : Reader
  description : StreamDescription := {}

structure Companion where
  ssrc : Ssrc := 0
  bound : Option BoundStream := none
  deriving Inhabited

structure Encoding where
  track : Option Track
  /-- Set once the track and the streams are bound, even if a later encoding fails. -/
  bound : Bool := false
  context : Context := {}
  ssrc : Ssrc
  primary : BoundStream
  rtx : Companion := {}
  fec : Companion := {}

namespace Encoding

def rid (e : Encoding) : String :=
  match e.track with
  | some t => t.ridText
  | none => ""

def carries (rid : String) (e : Encoding) : Bool := e.track.isSome && e.rid == rid

def boundStreams (e : Encoding) : List BoundStream :=
  if e.bound then e.primary :: (e.rtx.bound.toList ++ e.fec.bound.toList) else []

end Encoding

structure Coding where
  rid : String := ""
  ssrc : Ssrc := 0
  payloadType : PayloadType := 0
  rtx : Ssrc := 0
  fec : Ssrc := 0
  deriving DecidableEq, Repr, Inhabited

structure SendParameters where
  media : MediaParameters := {}
  codings : List Coding := []
  deriving DecidableEq, Repr, Inhabited

structure Sender where
  id : String := ""
  kind : MediaKind := .unspecified
  lifecycle : Lifecycle := .idle
  encodings : List Encoding := []
  payloadType : PayloadType := 0
  negotiated : Bool := false
  transceiver : Option Nat := none
  deriving Inhabited

namespace Sender

def base (s : Sender) : Option Encoding := s.encodings.head?

def baseTrack (s : Sender) : Option Track := s.base.bind (·.track)

def summary (s : Sender) : String :=
  "RTCRtpSender \x7b id: " ++ Text.quoted s.id ++ ", kind: " ++ s.kind.label ++
    ", state: " ++ s.lifecycle.summary ++ " \x7d"

def coding (s : Sender) (e : Encoding) : Coding :=
  { rid := e.rid, ssrc := e.ssrc, payloadType := s.payloadType
    rtx := e.rtx.ssrc, fec := e.fec.ssrc }

/-- The codecs of the transceiver while it is alive, else those of the capabilities. -/
def codecs (s : Sender) (w : Endpoint) : List Codec :=
  match s.transceiver.bind w.transceivers.entry with
  | some codecs => codecs
  | none => w.capabilities.codecs s.kind

def parameters (s : Sender) (w : Endpoint) : SendParameters :=
  { media := { w.capabilities.parameters s.kind .sendOnly with codecs := s.codecs w }
    codings := s.encodings.map s.coding }

inductive Feed
  | base
  | simulcast (rid : String)
  | rtx
  | fec
  deriving DecidableEq, Repr

/-- The feeds of companions are looked up before the wait for sending, the others after it. -/
def Feed.isCompanion : Feed → Bool
  | rtx | fec => true
  | _ => false

def companionReader (c : Option Companion) : Outcome Reader :=
  match c.bind (·.bound) with
  | some b => .ok b.reader
  | none => .error .noProgress

def reader (s : Sender) : Feed → Outcome Reader
  | .base => match s.base with
    | some e => .ok e.primary.reader
    | none => .error .closedPipe
  | .simulcast rid => match s.encodings.find? (·.carries rid) with
    | some e => .ok e.primary.reader
    | none => .error (.unknownRid rid)
  | .rtx => companionReader (s.base.map (·.rtx))
  | .fec => companionReader (s.base.map (·.fec))

def setBaseDeadline (deadline : Option Instant) (s : Sender) (w : Endpoint) : Endpoint :=
  match s.base with
  | some e => w.setDeadline e.primary.stream deadline
  | none => w

def setDeadline (deadline : Option Instant) (rid : String) (s : Sender) (w : Endpoint) :
    Outcome Endpoint :=
  match s.encodings.find? (·.carries rid) with
  | some e => .ok (w.setDeadline e.primary.stream deadline)
  | none => .error (.unknownRid rid)

structure Result where
  sender : Sender
  endpoint : Endpoint
  outcome : Outcome Unit

end Sender

end MediaSender
