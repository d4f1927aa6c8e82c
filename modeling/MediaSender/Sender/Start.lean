import MediaSender.Sender.Basic
/-!
Starting a sender. Each encoding in turn gets a stream with the SSRC that was asked for, its track
is bound to it, and the stream and its companions are bound into the chain of layers. The first
track that does not bind ends the start: encodings before it stay bound, and the sender stays idle.
-/

namespace MediaSender

def Context.narrow (codec : Codec) (c : Context) : Context :=
  { c with parameters := { c.parameters with codecs := [codec] } }

namespace Sender

structure Launch where
  id : String
  codecs : List Codec
  extensions : List HeaderExtension

namespace Launch

def fecCodecs (l : Launch) : List Codec := Codec.ofType Mime.flexFec l.codecs

def redundancy (l : Launch) : Option PayloadType :=
  (l.codecs.head?.filter (·.hasType Mime.red)).map (·.payloadType)

def tags (l : Launch) (codec : Codec) : List (Nat × Nat) :=
  (if codec.hasType Mime.opus then
    l.redundancy.toList.map fun p => (StreamDescription.redundancyKey, p.toNat)
  else []) ++
  (if l.fecCodecs.isEmpty then [] else [(StreamDescription.flexFecKey, 1)])

def describe (l : Launch) (ssrc : Ssrc) (codec : Codec) : StreamDescription :=
  { StreamDescription.ofCodec l.id ssrc codec l.extensions none with
    attributes := .ofList (l.tags codec) }

def describeCompanion (l : Launch) (suffix : String) (ssrc : Ssrc) (codec : Codec)
    (primary : Primary) : StreamDescription :=
  .ofCodec (l.id ++ suffix) ssrc codec l.extensions (some primary)

end Launch

structure CompanionPlan where
  ssrc : Ssrc
  description : StreamDescription

def planCompanion (l : Launch) (suffix : String) (ssrc : Ssrc) (codec : Option Codec)
    (primary : Primary) : Option CompanionPlan :=
  if ssrc = 0 then none
  else codec.map fun c => ⟨ssrc, l.describeCompanion suffix ssrc c primary⟩

/-- Only a codec that protects exactly the negotiated one will do for retransmission. -/
def rtxCodec (l : Launch) (codec : Codec) : Option Codec :=
  match Codec.retransmission codec l.codecs with
  | .exactly c => some c
  | _ => none

def companionOf (plan : Option CompanionPlan) (old : Companion) (w : Endpoint) : Companion :=
  match plan with
  | none => old
  | some p =>
    { ssrc := p.ssrc
      bound := some ⟨w.nextStream, w.readerOf w.nextStream, p.description⟩ }

def bindCompanion (plan : Option CompanionPlan) (w : Endpoint) : Endpoint :=
  match plan with
  | none => w
  | some p =>
    ((w.addStream p.ssrc none).bindReader w.nextStream).bindWriter w.nextStream p.description

def contextOf (id : String) (t : Track) (c : Coding) (w : Endpoint) : Context :=
  { id
    parameters := w.capabilities.parameters t.kind .sendOnly
    ssrc := c.ssrc
    gate := some w.nextGate
    reader := some (w.readerOf w.nextStream) }

/-- The new stream takes over the read deadline of the old one. -/
def openPrimary (e : Encoding) (c : Coding) (w : Endpoint) : Endpoint :=
  ((w.addStream c.ssrc (w.stream e.primary.stream).deadline).addGate).bindReader w.nextStream

def bindPrimary (s : StreamId) (g : GateId) (d : StreamDescription) (w : Endpoint) : Endpoint :=
  (w.bindWriter s d).resolve g (w.writerOf s d)

def boundText (id : String) (t : Track) (c : Coding) (codec : Codec) : String :=
  "sender " ++ id ++ " bound encoding rid=" ++ Text.quoted? t.rid ++
    " ssrc=" ++ toString c.ssrc.toNat ++ " payload_type=" ++ toString codec.payloadType.toNat

structure Started where
  encoding : Encoding
  endpoint : Endpoint
  outcome : Outcome PayloadType

def bindStreams (l : Launch) (t : Track) (context : Context) (s : StreamId) (g : GateId)
    (codec : Codec) (c : Coding) (e : Encoding) (w : Endpoint) : Started :=
  let description := l.describe c.ssrc codec
  let primary : Primary := ⟨c.ssrc, codec.payloadType⟩
  let rtx := planCompanion l "_rtx" c.rtx (rtxCodec l codec) primary
  let fec := planCompanion l "_fec" c.fec l.fecCodecs.head? primary
  let w₁ := bindPrimary s g description w
  let w₂ := bindCompanion rtx w₁
  { encoding :=
      { e with
        bound := true
        context := context.narrow codec
        ssrc := c.ssrc
        primary := ⟨s, w.readerOf s, description⟩
        rtx := companionOf rtx e.rtx w₁
        fec := companionOf fec e.fec w₂ }
    endpoint := (bindCompanion fec w₂).log .trace (boundText l.id t c codec)
    outcome := .ok codec.payloadType }

def startEncoding (l : Launch) (e : Encoding) (c : Coding) (w : Endpoint) : Started :=
  match e.track with
  | none => ⟨e, w, .error .trackRemoved⟩
  | some t =>
    let context := contextOf l.id t c w
    let w₁ := openPrimary e c w
    match w₁.bindResult t context with
    | .error f => ⟨{ e with ssrc := c.ssrc, context }, w₁.bindTrack t context, .error f⟩
    | .ok codec =>
      bindStreams l t context w.nextStream w.nextGate codec c e (w₁.bindTrack t context)

structure AllStarted where
  encodings : List Encoding
  endpoint : Endpoint
  outcome : Outcome (Option PayloadType)

def startAll (l : Launch) : List Encoding → List Coding → Endpoint → AllStarted
  | e :: es, c :: cs, w =>
    let first := startEncoding l e c w
    match first.outcome with
    | .error f => ⟨first.encoding :: es, first.endpoint, .error f⟩
    | .ok payloadType =>
      let rest := startAll l es cs first.endpoint
      ⟨first.encoding :: rest.encodings, rest.endpoint, rest.outcome.map fun _ => some payloadType⟩
  | es, _, w => ⟨es, w, .ok none⟩

def startFailure (s : Sender) (p : SendParameters) : Option Failure :=
  if s.lifecycle.hasStopped then some .stopped
  else if s.lifecycle.hasSent then some .alreadySent
  else if s.baseTrack.isNone then some .trackRemoved
  else if p.codings.length < s.encodings.length then some .tooFewEncodings
  else none

def launch (s : Sender) (p : SendParameters) (w : Endpoint) : Launch :=
  ⟨s.id, w.capabilities.codecs s.kind, p.media.headerExtensions⟩

def start (p : SendParameters) (s : Sender) (w : Endpoint) : Result :=
  match s.startFailure p with
  | some f => ⟨s, w, .error f⟩
  | none =>
    let r := startAll (s.launch p w) s.encodings p.codings w
    match r.outcome with
    | .error f => ⟨{ s with encodings := r.encodings }, r.endpoint, .error f⟩
    | .ok payloadType =>
      ⟨{ s with
          encodings := r.encodings
          payloadType := payloadType.getD s.payloadType
          lifecycle := s.lifecycle.start }, r.endpoint, .ok ()⟩

end Sender

end MediaSender
