import MediaSender.Codec
import MediaSender.Failure
/-!
What a sender may negotiate: the codecs of each kind in order of preference, and the header
extensions with their identifiers. A codec is known by its media type and its payload type, an
extension by its URI; registering either again keeps its place.
-/

namespace MediaSender

structure HeaderExtension where
  uri : String := ""
  id : Nat := 0
  encrypted : Bool := false
  deriving DecidableEq, Repr, Inhabited

structure ControlParameters where
  cname : String := ""
  reducedSize : Bool := false
  deriving DecidableEq, Repr, Inhabited

structure MediaParameters where
  headerExtensions : List HeaderExtension := []
  control : ControlParameters := {}
  codecs : List Codec := []
  deriving DecidableEq, Repr, Inhabited

structure ExtensionOffer where
  id : Nat
  uri : String
  forAudio : Bool := false
  forVideo : Bool := false
  direction : Option Direction := none
  deriving DecidableEq, Repr

namespace ExtensionOffer

def servesDirection (e : ExtensionOffer) (d : Direction) : Bool :=
  match e.direction with
  | none => true
  | some allowed =>
    (allowed == .inactive && d == .inactive) || (allowed.sends && d.sends) ||
      (allowed.receives && d.receives)

def servesKind (e : ExtensionOffer) (k : MediaKind) : Bool :=
  (e.forAudio && k == .audio) || (e.forVideo && k == .video)

def update (k : MediaKind) (d : Option Direction) (e : ExtensionOffer) : ExtensionOffer :=
  { e with
    forAudio := e.forAudio || k == .audio
    forVideo := e.forVideo || k == .video
    direction := d }

def toParameters (e : ExtensionOffer) : HeaderExtension := { uri := e.uri, id := e.id }

end ExtensionOffer

structure Capabilities where
  audio : List Codec := []
  video : List Codec := []
  extensions : List ExtensionOffer := []
  deriving DecidableEq, Repr, Inhabited

/-- What a registration answers, and the capabilities it leaves behind. -/
structure Registered where
  outcome : Outcome Unit := .ok ()
  left : Capabilities
  deriving DecidableEq

namespace Capabilities

def sameEntry (a b : Codec) : Bool :=
  a.format.mimeType == b.format.mimeType && a.payloadType == b.payloadType

def insert (codecs : List Codec) (c : Codec) : List Codec :=
  if codecs.any (sameEntry c) then codecs else codecs ++ [c]

def register (c : Codec) : MediaKind → Capabilities → Registered
  | .audio, t => { left := { t with audio := insert t.audio c } }
  | .video, t => { left := { t with video := insert t.video c } }
  | .unspecified, t => { outcome := .error .unknownKind, left := t }

def defaultAudio : List Codec := [
  ⟨{ mimeType := Mime.opus, clockRate := 48000, channels := 2,
     parameters := "minptime=10;useinbandfec=1" }, 111⟩,
  ⟨{ mimeType := Mime.g722, clockRate := 8000 }, 9⟩,
  ⟨{ mimeType := Mime.pcmu, clockRate := 8000 }, 0⟩,
  ⟨{ mimeType := Mime.pcma, clockRate := 8000 }, 8⟩]

def videoFeedback : List Feedback :=
  [⟨"goog-remb", ""⟩, ⟨"ccm", "fir"⟩, ⟨"nack", ""⟩, ⟨"nack", "pli"⟩]

def withRetransmission (mimeType parameters : String) (payloadType : UInt8) : List Codec := [
  ⟨{ mimeType, clockRate := 90000, parameters, feedback := videoFeedback }, payloadType⟩,
  ⟨{ mimeType := Mime.rtx, clockRate := 90000, parameters := "apt=" ++ toString payloadType.toNat },
    payloadType + 1⟩]

def h264Parameters (packetization : String) : String :=
  "level-asymmetry-allowed=1;packetization-mode=" ++ packetization ++ ";profile-level-id=42001f"

def defaultVideo : List Codec :=
  withRetransmission Mime.vp8 "" 96 ++
  withRetransmission Mime.vp9 "profile-id=0" 98 ++
  withRetransmission Mime.vp9 "profile-id=1" 100 ++
  withRetransmission Mime.h264 (h264Parameters "1") 102 ++
  withRetransmission Mime.h264 (h264Parameters "0") 127 ++
  withRetransmission Mime.av1 "profile-id=0" 41 ++
  [⟨{ mimeType := Mime.ulpFec, clockRate := 90000 }, 116⟩]

def registerDefaults (t : Capabilities) : Capabilities :=
  { t with
    audio := defaultAudio.foldl insert t.audio
    video := defaultVideo.foldl insert t.video }

def lastExtensionId : Nat := 14

def mayRegister : Option Direction → Bool
  | some .unspecified | some .inactive => false
  | _ => true

/-- A known URI keeps its identifier; a new one gets the next. -/
def addExtension (uri : String) (k : MediaKind) (d : Option Direction)
    (offers : List ExtensionOffer) : Outcome Unit × List ExtensionOffer :=
  if offers.any (·.uri == uri) then
    (.ok (), offers.map fun e => if e.uri == uri then e.update k d else e)
  else if lastExtensionId ≤ offers.length then (.error .noFreeExtensionId, offers)
  else (.ok (), offers ++ [ExtensionOffer.update k d { id := offers.length + 1, uri }])

def registerExtension (uri : String) (k : MediaKind) (d : Option Direction)
    (t : Capabilities) : Registered :=
  if mayRegister d then
    let (outcome, extensions) := addExtension uri k d t.extensions
    { outcome, left := { t with extensions } }
  else { outcome := .error .extensionDirection, left := t }

def codecs (t : Capabilities) : MediaKind → List Codec
  | .audio => t.audio
  | .video => t.video
  | .unspecified => []

def extensionsFor (t : Capabilities) (k : MediaKind) (d : Direction) : List HeaderExtension :=
  (t.extensions.filter fun e => e.servesDirection d && e.servesKind k).map (·.toParameters)

def parameters (t : Capabilities) (k : MediaKind) (d : Direction) : MediaParameters :=
  { headerExtensions := t.extensionsFor k d, codecs := t.codecs k }

end Capabilities

end MediaSender
