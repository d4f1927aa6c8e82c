/-!
What can go wrong with a sender, its streams, its tracks and its capability tables, and the text
that each failure is reported with.
-/

namespace MediaSender

inductive IoKind
  | brokenPipe
  | notFound
  | timedOut
  | other
  deriving DecidableEq, Repr

inductive Failure
  | timeout
  | closedPipe
  | noProgress
  | unknownKind
  | unsupportedCodec
  | unbindFailed
  | extensionDirection
  | noFreeExtensionId
  | noTrack
  | noTransport
  | alreadySent
  | trackRemoved
  | noRid
  | stopped
  | noBaseEncoding
  | baseEncodingMismatch
  | ridCollision
  | unknownRid (rid : String)
  | kindMismatch
  | envelopeMismatch
  | tooFewEncodings
  | alreadyResolved
  | poisoned (text : String)
  | io (kind : IoKind) (text : String)
  /-- Foreign failures of a collaborator are passed on as they are and equal no other failure. -/
  | external (kind : IoKind) (text : String)
  | rtcp (text : String)
  | srtp (text : String)
  | chain (text : String)
  | other (text : String)
  deriving DecidableEq, Repr

abbrev Outcome (α : Type) := Except Failure α

instance Outcome.decidableEq {α : Type} [DecidableEq α] : DecidableEq (Outcome α)
  | .ok a, .ok b => decidable_of_iff (a = b) ⟨congrArg _, Except.ok.inj⟩
  | .error e, .error f => decidable_of_iff (e = f) ⟨congrArg _, Except.error.inj⟩
  | .ok _, .error _ => isFalse nofun
  | .error _, .ok _ => isFalse nofun

namespace Failure

def message : Failure → String
  | timeout => "i/o timeout"
  | closedPipe => "io: read/write on closed pipe"
  | noProgress => "multiple Read calls return no data or error"
  | unknownKind => "unknown"
  | unsupportedCodec => "unable to start track, codec is not supported by remote"
  | unbindFailed => "failed to unbind TrackLocal from RTPSender"
  | extensionDirection => "a header extension must be registered with the same direction each time"
  | noFreeExtensionId =>
    "no header extension ID was free to use" ++
      "(this means the maximum of 14 extensions have been registered)"
  | noTrack => "Track must not be nil"
  | noTransport => "DTLSTransport must not be nil"
  | alreadySent => "Send has already been called"
  | trackRemoved => "Sender Track has been removed or replaced to nil"
  | noRid => "Sender cannot add encoding as rid is empty"
  | stopped => "Sender has already been stopped"
  | noBaseEncoding => "Sender cannot add encoding as there is no base track"
  | baseEncodingMismatch =>
    "Sender cannot add encoding as provided track does not match base track"
  | ridCollision => "Sender cannot encoding due to RID collision"
  | unknownRid rid => "Sender does not have track for RID: " ++ rid
  | kindMismatch => "new track must be of the same kind as previous"
  | envelopeMismatch => "new track must have the same envelope as previous"
  | tooFewEncodings => "send parameters must describe every encoding of the sender"
  | alreadyResolved => "write stream has already been resolved"
  | poisoned text => "mutex poison: " ++ text
  | io _ text => "io error: " ++ text
  | external _ text => text
  | rtcp text => "Other RTCP Err: " ++ text
  | srtp text => "Other SRTP Err: " ++ text
  | chain text => "Other Interceptor Err: " ++ text
  | other text => text

/-- Whether two failures have the same cause. An i/o failure is known by its kind alone. -/
def sameCause : Failure → Failure → Bool
  | io a _, io b _ => a == b
  | external .., external .. => false
  | a, b => a == b

def externalText? : Failure → Option String
  | external _ text => some text
  | _ => none

def flatten : List Failure → Outcome Unit
  | [] => .ok ()
  | failures => .error (.other ("\n".intercalate (failures.map message)))

end Failure

end MediaSender
