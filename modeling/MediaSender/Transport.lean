import MediaSender.Event
/-!
The transport below the streams: whether it is ready, what fails on the stream of an SSRC, and the
datagrams that wait to be read.
-/

namespace MediaSender

inductive Operation
  | openStream
  | write
  | read
  | close
  deriving DecidableEq, Repr

structure Transport where
  ready : Bool := true
  failure : Ssrc → Operation → Option Failure := fun _ _ => none
  queue : Ssrc → List Bytes := fun _ => []
  /-- The stream that the next open closes first. -/
  trap : Option StreamId := none

namespace Transport

def setFailure (ssrc : Ssrc) (op : Operation) (e : Option Failure) (t : Transport) : Transport :=
  { t with failure := fun s o => if s = ssrc ∧ o = op then e else t.failure s o }

def setQueue (ssrc : Ssrc) (datagrams : List Bytes) (t : Transport) : Transport :=
  { t with queue := fun s => if s = ssrc then datagrams else t.queue s }

def push (ssrc : Ssrc) (datagram : Bytes) (t : Transport) : Transport :=
  t.setQueue ssrc (t.queue ssrc ++ [datagram])

def pop (ssrc : Ssrc) (t : Transport) : Transport := t.setQueue ssrc (t.queue ssrc).tail

end Transport

end MediaSender
