import MediaSender.Failure
import MediaSender.Packet
/-!
Control packets of a datagram. Each packet starts with a header of four bytes: version and count,
payload type, and the number of four-byte words that follow.
-/

namespace MediaSender

inductive ControlPacket
  | pictureLoss (sender media : Ssrc)
  | other
  deriving DecidableEq, Repr

namespace ControlPacket

def destinations : ControlPacket → List Ssrc
  | pictureLoss _ media => [media]
  | other => []

def tooShort : Failure := .rtcp "Packet status chunk must be 2 bytes"

def badVersion : Failure := .rtcp "Invalid packet version"

def emptyDatagram : Failure := .rtcp "Invalid header"

def word : Bytes → Ssrc
  | [a, b, c, d] => a.toUInt32 <<< 24 ||| b.toUInt32 <<< 16 ||| c.toUInt32 <<< 8 ||| d.toUInt32
  | _ => 0

def isPictureLoss (first kind : UInt8) : Bool := kind == 206 && first % 32 == 1

def ofBody (first kind : UInt8) (body : Bytes) : Outcome ControlPacket :=
  if isPictureLoss first kind then
    if body.length < 8 then .error tooShort
    else .ok (.pictureLoss (word (body.take 4)) (word ((body.drop 4).take 4)))
  else .ok .other

def decodeAll : Bytes → Outcome (List ControlPacket)
  | first :: kind :: high :: low :: rest =>
    let length := 4 * (256 * high.toNat + low.toNat)
    if first / 64 != 2 then .error badVersion
    else if rest.length < length then .error tooShort
    else do
      let packet ← ofBody first kind (rest.take length)
      let packets ← decodeAll (rest.drop length)
      return packet :: packets
  | [] => .ok []
  | _ => .error tooShort
termination_by data => data.length
decreasing_by simp only [List.length_cons, List.length_drop]; omega

def decode : Bytes → Outcome (List ControlPacket)
  | [] => .error emptyDatagram
  | data => decodeAll data

end ControlPacket

end MediaSender
