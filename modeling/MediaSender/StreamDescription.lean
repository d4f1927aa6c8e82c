import MediaSender.Capabilities
import MediaSender.Packet
/-!
The description of a stream that a sender hands to the layers of a chain.
-/

namespace MediaSender

structure Primary where
  ssrc : Ssrc
  payloadType : PayloadType
  deriving DecidableEq, Repr

structure ExtensionId where
  uri : String
  id : Nat
  deriving DecidableEq, Repr

structure StreamDescription where
  id : String := ""
  attributes : Attributes := []
  ssrc : Ssrc := 0
  payloadType : PayloadType := 0
  extensions : List ExtensionId := []
  mimeType : String := ""
  clockRate : UInt32 := 0
  channels : UInt16 := 0
  parameters : String := ""
  feedback : List Feedback := []
  protects : Option Primary := none
  deriving DecidableEq, Repr, Inhabited

namespace StreamDescription

def redundancyKey : Nat := 1

def flexFecKey : Nat := 2

def ofCodec (id : String) (ssrc : Ssrc) (c : Codec) (extensions : List HeaderExtension)
    (protects : Option Primary) : StreamDescription :=
  { id, ssrc, protects
    payloadType := c.payloadType
    extensions := extensions.map fun e => ⟨e.uri, e.id⟩
    mimeType := c.format.mimeType
    clockRate := c.format.clockRate
    channels := c.format.channels
    parameters := c.format.parameters
    feedback := c.format.feedback }

end StreamDescription

end MediaSender
