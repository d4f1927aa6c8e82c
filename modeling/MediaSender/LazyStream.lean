import MediaSender.Packet
/-!
Streams that are opened on first use. Of the calls that want the stream opened, the one that came
first opens it; if it fails or goes away, the next one does. A closed stream stays closed, and what
was opened is shut once.
-/

namespace MediaSender

/-- A moment on the endpoint's clock, in milliseconds. -/
abbrev Instant := Int

abbrev Ticket := Nat

structure LazyStream where
  ssrc : Ssrc := 0
  deadline : Option Instant := none
  closed : Bool := false
  opened : Bool := false
  shut : Bool := false
  /-- The calls that wait for the open, in the order they came; the first one is opening. -/
  claims : List Ticket := []
  deriving DecidableEq, Repr, Inhabited

namespace LazyStream

def claim (t : Ticket) (s : LazyStream) : LazyStream :=
  if s.claims.contains t then s else { s with claims := s.claims ++ [t] }

def isOpener (t : Ticket) (s : LazyStream) : Bool := s.claims.head? == some t

def release (t : Ticket) (s : LazyStream) : LazyStream := { s with claims := s.claims.erase t }

def markOpened (s : LazyStream) : LazyStream := { s with opened := true, claims := [] }

def close (s : LazyStream) : LazyStream := { s with closed := true }

def markShut (s : LazyStream) : LazyStream := { s with shut := true }

end LazyStream

def Instant.passed (now : Instant) : Option Instant → Bool
  | some deadline => deadline ≤ now
  | none => false

end MediaSender
