import MediaSender.Sender.Basic
/-!
Another track for a sender. Tracks that are bound are unbound first, in the order of the encodings
and up to the first that fails; a new track is then bound in place of the base track, and if that
fails the base track is bound again.
-/

namespace MediaSender

namespace Encoding

def detachFailure (e : Encoding) (w : Endpoint) : Option Failure :=
  match e.bound, e.track with
  | true, some t => match w.unbindResult t e.context with
    | .ok () => none
    | .error f => some f
  | _, _ => none

def detach (e : Encoding) (w : Endpoint) : Endpoint :=
  match e.bound, e.track with
  | true, some t => w.unbindTrack t e.context
  | _, _ => w

/-- A bound encoding keeps its track until the new one is bound. -/
def retrack (track : Option Track) (e : Encoding) : Encoding :=
  if !e.bound || track.isNone then { e with track } else e

def contextFor (t : Track) (e : Encoding) (w : Endpoint) : Context :=
  { e.context with parameters := w.capabilities.parameters t.kind .sendOnly }

def withTrack (t : Track) (c : Context) (e : Encoding) : Encoding :=
  { e with track := some t, context := c }

end Encoding

def Context.settle (payloadType : PayloadType) (codec : Codec) (c : Context) : Context :=
  if codec.payloadType ≠ payloadType then
    { c with parameters := { c.parameters with codecs := [codec] } }
  else c

namespace Sender

structure Detached where
  encodings : List Encoding
  endpoint : Endpoint
  failure : Option Failure

def detachAll (track : Option Track) : List Encoding → Endpoint → Detached
  | [], w => ⟨[], w, none⟩
  | e :: es, w =>
    match e.detachFailure w with
    | some f => ⟨e :: es, e.detach w, some f⟩
    | none =>
      let rest := detachAll track es (e.detach w)
      { rest with encodings := e.retrack track :: rest.encodings }

/-- A failure to bind the old track again is only logged. -/
def restore (id : String) (e : Encoding) (w : Endpoint) : Endpoint :=
  match e.track with
  | none => w
  | some t =>
    match w.bindResult t e.context with
    | .ok _ => w.bindTrack t e.context
    | .error f => (w.bindTrack t e.context).log .warn
        ("sender " ++ id ++ " failed to re-bind track " ++ t.id ++ " after replace_track: " ++
          f.message)

structure Attached where
  encoding : Encoding
  endpoint : Endpoint
  outcome : Outcome Unit

def attach (s : Sender) (t : Track) (e : Encoding) (w : Endpoint) : Attached :=
  let context := e.contextFor t w
  match w.bindResult t context with
  | .error f => ⟨e, restore s.id e (w.bindTrack t context), .error f⟩
  | .ok codec =>
    ⟨e.withTrack t (context.settle s.payloadType codec),
      (w.bindTrack t context).log .trace ("sender " ++ s.id ++ " replaced track with " ++ t.id),
      .ok ()⟩

def swapFailure (s : Sender) : Option Track → Option Failure
  | none => none
  | some t =>
    if s.kind ≠ t.kind then some .kindMismatch
    else if 1 < s.encodings.length then some .envelopeMismatch
    else none

def attachBase (s : Sender) (track : Option Track) (d : Detached) : Result :=
  match track, d.encodings with
  | some t, e :: es =>
    if e.bound then
      let a := attach s t e d.endpoint
      ⟨{ s with encodings := a.encoding :: es }, a.endpoint, a.outcome⟩
    else ⟨{ s with encodings := d.encodings }, d.endpoint, .ok ()⟩
  | _, _ => ⟨{ s with encodings := d.encodings }, d.endpoint, .ok ()⟩

def exchange (track : Option Track) (s : Sender) (w : Endpoint) : Result :=
  match s.swapFailure track with
  | some f => ⟨s, w, .error f⟩
  | none =>
    let d := detachAll track s.encodings w
    match d.failure with
    | some f => ⟨{ s with encodings := d.encodings }, d.endpoint, .error f⟩
    | none => s.attachBase track d

def swapTrack (track : Option Track) (s : Sender) (w : Endpoint) : Result :=
  if s.lifecycle.hasStopped then ⟨s, w, .error .stopped⟩ else s.exchange track w

end Sender

end MediaSender
