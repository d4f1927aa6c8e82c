import MediaSender.Packet
/-!
Settings of a sender: whether retransmission and error correction streams are reserved, the size of
the buffer for incoming control packets, and the source of fresh SSRCs.
-/

namespace MediaSender

/-- The SSRC drawn at each position; without a source they are random. -/
abbrev SsrcSource := Nat → Ssrc

namespace SsrcSource

def cycle (ssrcs : List Ssrc) : SsrcSource := fun n => ssrcs.getD (n % ssrcs.length) 0

def progression (start step : Ssrc) : SsrcSource := fun n => start + step * UInt32.ofNat n

end SsrcSource

structure Settings where
  retransmission : Bool := false
  flexFec : Bool := false
  /-- Zero stands for the default. -/
  bufferSize : Nat := 0
  ssrcs : Option SsrcSource := none

namespace Settings

def defaultBufferSize : Nat := 1460

def receiveSize (s : Settings) : Nat :=
  if s.bufferSize = 0 then defaultBufferSize else s.bufferSize

def summary (s : Settings) : String :=
  "SettingEngine \x7b track_local_rtx: " ++ toString s.retransmission ++
    ", track_local_flexfec: " ++ toString s.flexFec ++
    ", receive_mtu: " ++ toString s.bufferSize ++
    ", ssrc_generator: " ++ toString s.ssrcs.isSome ++ " \x7d"

end Settings

end MediaSender
