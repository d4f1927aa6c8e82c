import MediaSender.Media
import MediaSender.Text.Ascii
import MediaSender.Text.Lowercase
import MediaSender.Text.Split
/-!
Codecs: a media format, and the payload type that stands for it in packets.
-/

namespace MediaSender

structure Feedback where
  mechanism : String
  parameter : String
  deriving DecidableEq, Repr, Inhabited

structure CodecFormat where
  mimeType : String := ""
  clockRate : UInt32 := 0
  channels : UInt16 := 0
  parameters : String := ""
  feedback : List Feedback := []
  deriving DecidableEq, Repr, Inhabited

structure Codec where
  format : CodecFormat := {}
  payloadType : UInt8 := 0
  deriving DecidableEq, Repr, Inhabited

namespace Mime

def h264 := "video/H264"
def opus := "audio/opus"
def red := "audio/red"
def vp8 := "video/VP8"
def vp9 := "video/VP9"
def av1 := "video/AV1"
def g722 := "audio/G722"
def pcmu := "audio/PCMU"
def pcma := "audio/PCMA"
def rtx := "video/rtx"
def flexFec := "video/flexfec-03"
def ulpFec := "video/ulpfec"

end Mime

def CodecFormat.kind (f : CodecFormat) : MediaKind :=
  match Text.cut '/' f.mimeType.toList with
  | (top, some _) => .ofName (String.ofList (Text.lowercase top))
  | (_, none) => .unspecified

def Codec.hasType (mimeType : String) (c : Codec) : Bool := Ascii.same c.format.mimeType mimeType

end MediaSender
