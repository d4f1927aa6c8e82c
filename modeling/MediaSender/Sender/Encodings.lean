import MediaSender.Sender.Basic
/-!
New senders and further encodings. Each encoding gets an SSRC of its own and a reader that is bound
right away, so that reads can wait before anything is sent.
-/

namespace MediaSender.Sender

def reservesRtx (w : Endpoint) (kind : MediaKind) : Bool :=
  let codecs := w.capabilities.codecs kind
  w.settings.retransmission && codecs.any fun c => !(Codec.retransmission c codecs).isNone

def reservesFec (w : Endpoint) (kind : MediaKind) : Bool :=
  w.settings.flexFec && !(Codec.ofType Mime.flexFec (w.capabilities.codecs kind)).isEmpty

def reserved (wanted : Bool) (w : Endpoint) : Companion :=
  if wanted then { ssrc := w.nextSsrc } else {}

def reserve (wanted : Bool) (w : Endpoint) : Endpoint :=
  if wanted then w.drawSsrc else w

def addedText (id : String) (e : Encoding) : String :=
  "sender " ++ id ++ " added encoding rid=" ++ Text.quoted? (e.track.bind (·.rid)) ++
    " ssrc=" ++ toString e.ssrc.toNat ++ " rtx_ssrc=" ++ toString e.rtx.ssrc.toNat ++
    " fec_ssrc=" ++ toString e.fec.ssrc.toNat

def prepared (w : Endpoint) : Endpoint :=
  (w.drawSsrc.addStream w.nextSsrc none).bindReader w.nextStream

def newEncoding (t : Track) (w : Endpoint) : Encoding :=
  let w₁ := prepared w
  let w₂ := reserve (reservesRtx w t.kind) w₁
  { track := some t
    ssrc := w.nextSsrc
    primary := { stream := w.nextStream, reader := w.readerOf w.nextStream }
    rtx := reserved (reservesRtx w t.kind) w₁
    fec := reserved (reservesFec w t.kind) w₂ }

def withEncoding (id : String) (t : Track) (w : Endpoint) : Endpoint :=
  (reserve (reservesFec w t.kind) (reserve (reservesRtx w t.kind) (prepared w))).log .trace
    (addedText id (newEncoding t w))

def append (t : Track) (s : Sender) (w : Endpoint) : Sender × Endpoint :=
  ({ s with encodings := s.encodings ++ [newEncoding t w] }, withEncoding s.id t w)

def create (track : Option Track) (connected : Bool) (w : Endpoint) : Outcome (Sender × Endpoint) :=
  match track, connected with
  | none, _ => .error .noTrack
  | some _, false => .error .noTransport
  | some t, true => .ok (append t { id := w.nextId, kind := t.kind } w.drawId)

def namedBase (s : Sender) : Option Track := s.baseTrack.filter (·.ridText ≠ "")

def sameEnvelope (a b : Track) : Bool :=
  a.id == b.id && a.streamId == b.streamId && a.kind == b.kind

def extendFailure (s : Sender) (t : Track) : Option Failure :=
  if t.ridText = "" then some .noRid
  else if s.lifecycle.hasStopped then some .stopped
  else if s.lifecycle.hasSent then some .alreadySent
  else match s.namedBase with
    | none => some .noBaseEncoding
    | some b =>
      if !sameEnvelope b t then some .baseEncodingMismatch
      else if s.encodings.any (·.carries t.ridText) then some .ridCollision
      else none

def extend (track : Option Track) (s : Sender) (w : Endpoint) : Result :=
  match track with
  | none => ⟨s, w, .error .noTrack⟩
  | some t =>
    match s.extendFailure t with
    | some e => ⟨s, w, .error e⟩
    | none => let (s', w') := s.append t w; ⟨s', w', .ok ()⟩

end MediaSender.Sender
