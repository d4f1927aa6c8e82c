/-!
Kinds of media and directions of flow.
-/

namespace MediaSender

inductive MediaKind
  | unspecified
  | audio
  | video
  deriving DecidableEq, Repr, Inhabited

def MediaKind.ofName : String → MediaKind
  | "audio" => .audio
  | "video" => .video
  | _ => .unspecified

def MediaKind.name : MediaKind → String
  | .audio => "audio"
  | .video => "video"
  | .unspecified => "Unspecified"

def MediaKind.number : MediaKind → Nat
  | .unspecified => 0
  | .audio => 1
  | .video => 2

def MediaKind.label : MediaKind → String
  | .unspecified => "Unspecified"
  | .audio => "Audio"
  | .video => "Video"

inductive Direction
  | unspecified
  | sendReceive
  | sendOnly
  | receiveOnly
  | inactive
  deriving DecidableEq, Repr, Inhabited

def Direction.ofName : String → Direction
  | "sendrecv" => .sendReceive
  | "sendonly" => .sendOnly
  | "recvonly" => .receiveOnly
  | "inactive" => .inactive
  | _ => .unspecified

def Direction.sends : Direction → Bool
  | .sendReceive | .sendOnly => true
  | _ => false

def Direction.receives : Direction → Bool
  | .sendReceive | .receiveOnly => true
  | _ => false

end MediaSender
