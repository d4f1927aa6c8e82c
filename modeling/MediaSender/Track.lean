import MediaSender.Chain
import MediaSender.CodecMatch
/-!
Local tracks. A track of a fixed format keeps a binding for each sender that it is bound to; other
tracks decide for themselves how they are bound.
-/

namespace MediaSender

structure Context where
  id : String := ""
  parameters : MediaParameters := {}
  ssrc : Ssrc := 0
  gate : Option GateId := none
  reader : Option Reader := none
  deriving Inhabited

def Context.view (c : Context) : ContextView :=
  { id := c.id, ssrc := c.ssrc
    codecs := c.parameters.codecs
    headerExtensions := c.parameters.headerExtensions
    hasWriter := c.gate.isSome
    hasReader := c.reader.isSome }

structure Binding where
  id : String
  ssrc : Ssrc
  payloadType : PayloadType
  gate : Option GateId
  deriving DecidableEq, Repr

def Binding.isFor (c : Context) (b : Binding) : Bool := b.id == c.id && b.ssrc == c.ssrc

/-- A track of a fixed format, or one whose answers depend on how often it was asked before. -/
inductive TrackSource
  | fixed (format : CodecFormat)
  | custom (kind : MediaKind) (bind : Nat → Context → Outcome Codec) (unbind : Nat → Outcome Unit)

structure Track where
  key : TrackKey
  id : String
  streamId : String
  rid : Option String
  source : TrackSource

structure TrackState where
  bindings : List Binding := []
  contexts : List Context := []
  unbinds : Nat := 0
  deriving Inhabited

namespace Track

def kind (t : Track) : MediaKind :=
  match t.source with
  | .fixed format => format.kind
  | .custom kind .. => kind

def ridText (t : Track) : String := t.rid.getD ""

def isFixed (t : Track) : Bool :=
  match t.source with
  | .fixed _ => true
  | .custom .. => false

def bindResult (t : Track) (c : Context) (s : TrackState) : Outcome Codec :=
  match t.source with
  | .fixed format =>
    match (Codec.matching format c.parameters.codecs).codec? with
    | some codec => .ok codec
    | none => .error .unsupportedCodec
  | .custom _ bind _ => bind s.contexts.length c

def afterBind (t : Track) (c : Context) (s : TrackState) : TrackState :=
  match t.source, t.bindResult c s with
  | .fixed _, .ok codec =>
    { s with bindings := s.bindings ++ [⟨c.id, c.ssrc, codec.payloadType, c.gate⟩] }
  | .fixed _, .error _ => s
  | .custom .., _ => { s with contexts := s.contexts ++ [c] }

def unbindResult (t : Track) (c : Context) (s : TrackState) : Outcome Unit :=
  match t.source with
  | .fixed _ => if s.bindings.any (Binding.isFor c) then .ok () else .error .unbindFailed
  | .custom _ _ unbind => unbind s.unbinds

/-- The oldest binding of the context goes. -/
def afterUnbind (t : Track) (c : Context) (s : TrackState) : TrackState :=
  match t.source with
  | .fixed _ => { s with bindings := s.bindings.eraseP (Binding.isFor c) }
  | .custom .. => { s with unbinds := s.unbinds + 1 }

end Track

end MediaSender
