/-!
Media packets, and the attributes that travel with a packet through a chain of layers.
-/

namespace MediaSender

abbrev Ssrc := UInt32

abbrev PayloadType := UInt8

abbrev Bytes := List UInt8

structure Packet where
  marker : Bool := false
  payloadType : PayloadType := 0
  sequence : UInt16 := 0
  timestamp : UInt32 := 0
  ssrc : Ssrc := 0
  contributors : List Ssrc := []
  payload : Bytes := []
  deriving DecidableEq, Repr, Inhabited

def Packet.readdress (ssrc : Ssrc) (payloadType : PayloadType) (p : Packet) : Packet :=
  { p with ssrc, payloadType }

/-- Attributes in ascending order of their keys, each key once. -/
abbrev Attributes := List (Nat × Nat)

namespace Attributes

def set (key value : Nat) : Attributes → Attributes
  | [] => [(key, value)]
  | (k, v) :: rest =>
    if key < k then (key, value) :: (k, v) :: rest
    else if key = k then (key, value) :: rest
    else (k, v) :: set key value rest

def setAll (pairs : List (Nat × Nat)) (a : Attributes) : Attributes :=
  pairs.foldl (fun a (key, value) => set key value a) a

def get? (a : Attributes) (key : Nat) : Option Nat := a.lookup key

def ofList (pairs : List (Nat × Nat)) : Attributes := setAll pairs []

end Attributes

end MediaSender
